import WasmLua.Compile.Labels
import WasmLua.Proofs.Body.Structured

namespace WasmLua.Compile

open Labels
open Wasm (Code Instruction Op Spells)

def branchLabels (instruction : Instruction) : List Int64 :=
  match instruction.op? with
  | some .br => [instruction.label]
  | some .brIf => [instruction.label]
  | some .brTable => instruction.labels ++ [instruction.default]
  | _ => []

def Marked (targeted opened : List Nat) (label : Int64) : Prop :=
  0 ≤ label.toInt ∧ ∃ found, opened[label.toInt.toNat]? = some found ∧ (found = 0 ∨ found ∈ targeted)

def Marks (targeted : List Nat) : List Nat → Nat → Code → Prop
  | _, _, .done => True
  | opened, next, .mark rest => Marks targeted opened next rest
  | opened, next, .plain instruction rest =>
    (∀ label ∈ branchLabels instruction, Marked targeted opened label) ∧ Marks targeted opened next rest
  | opened, next, .block _ body rest =>
    Marks targeted (next :: opened) (next + 1) body ∧ Marks targeted opened (next + 1 + body.blocks) rest
  | opened, next, .loop _ body rest =>
    Marks targeted (next :: opened) (next + 1) body ∧ Marks targeted opened (next + 1 + body.blocks) rest
  | opened, next, .guarded _ body rest =>
    Marks targeted (next :: opened) (next + 1) body ∧ Marks targeted opened (next + 1 + body.blocks) rest
  | opened, next, .conditional _ first second rest =>
    Marks targeted (next :: opened) (next + 1) first ∧ Marks targeted (next :: opened) (next + 1 + first.blocks) second ∧
        Marks targeted opened (next + 1 + first.blocks + second.blocks) rest

variable {targeted more : List Nat} {label : Int64} {code : Code} {labels after last : Labels}
  {instruction closing : Instruction} {offset : Nat} {rest words : List Instruction}

lemma marked_mono {opened : List Nat} (included : targeted ⊆ more)
    (marked : Marked targeted opened label) : Marked more opened label := by
  obtain ⟨positive, found, access, known⟩ := marked
  exact ⟨positive, found, access, known.imp id fun member => included member⟩

lemma marks_mono (included : targeted ⊆ more) :
    ∀ (opened : List Nat) (next : Nat), Marks targeted opened next code → Marks more opened next code := by
  induction code with
  | done =>
    intro opened next marks
    trivial
  | mark rest ih =>
    intro opened next marks
    exact ih opened next marks
  | plain instruction rest ih =>
    intro opened next marks
    obtain ⟨here, after⟩ := marks
    exact ⟨fun label member => marked_mono included (here label member), ih opened next after⟩
  | block opening body rest ihBody ihRest
  | loop opening body rest ihBody ihRest
  | guarded opening body rest ihBody ihRest =>
    intro opened next marks
    obtain ⟨inside, after⟩ := marks
    exact ⟨ihBody _ _ inside, ihRest _ _ after⟩
  | conditional opening first second rest ihFirst ihSecond ihRest =>
    intro opened next marks
    obtain ⟨inside, other, after⟩ := marks
    exact ⟨ihFirst _ _ inside, ihSecond _ _ other, ihRest _ _ after⟩

structure Labels.Extends (first second : Labels) (blocks : Nat) : Prop where
  opened : second.opened = first.opened
  next : second.next = first.next + blocks
  targeted : first.targeted ⊆ second.targeted

lemma extends_refl (labels : Labels) : labels.Extends labels 0 := ⟨rfl, rfl, List.Subset.refl _⟩

lemma extends_trans {first second third : Labels} {blocks more : Nat}
    (before : first.Extends second blocks) (after : second.Extends third more) : first.Extends third (blocks + more) := by
  refine ⟨after.opened.trans before.opened, ?_, List.Subset.trans before.targeted after.targeted⟩
  rw [after.next, before.next, Nat.add_assoc]

lemma target_marks (found : labels.target label = .ok after) :
    labels.Extends after 0 ∧ Marked after.targeted labels.opened label := by
  unfold target at found
  split at found
  · cases found
  · rename_i negative
    split at found
    · cases found
    · rename_i access
      cases found
      exact ⟨extends_refl _, by omega, 0, access, Or.inl rfl⟩
    · rename_i inner nonzero access
      cases found
      refine ⟨⟨rfl, rfl, ?_⟩, by omega, inner, access, Or.inr ?_⟩
      · intro other member
        exact List.mem_insert_of_mem member
      · exact List.mem_insert_self

lemma targets_mark {list : List Int64} (labels : Labels) (found : list.foldlM target labels = .ok after) :
    labels.Extends after 0 ∧ ∀ label ∈ list, Marked after.targeted labels.opened label := by
  induction list generalizing labels with
  | nil =>
    cases found
    exact ⟨extends_refl _, by simp⟩
  | cons label rest ih =>
    rw [List.foldlM_cons] at found
    cases step : labels.target label with
    | error fault =>
      rw [step] at found
      cases found
    | ok middle =>
      rw [step] at found
      obtain ⟨first, marked⟩ := target_marks step
      obtain ⟨second, others⟩ := ih middle found
      refine ⟨extends_trans first second, ?_⟩
      intro other member
      rcases List.mem_cons.mp member with here | later
      · subst here
        exact marked_mono second.targeted marked
      · have result := others other later
        rwa [first.opened] at result

lemma step_marks (single : ∀ op ∈ instruction.op?, op ∉ [Op.block, .loop, .ifElse, .elseArm, .endBlock])
    (found : labels.step instruction = .ok after) : labels.Extends after 0 ∧
      ∀ label ∈ branchLabels instruction, Marked after.targeted labels.opened label := by
  unfold step at found
  unfold branchLabels
  split at found
  case h_1 same | h_2 same | h_3 same | h_4 same => exact absurd (single _ same) (by simp)
  case h_5 same | h_6 same =>
    simp only [same, List.mem_singleton, forall_eq]
    exact target_marks found
  case h_7 same =>
    cases step : instruction.labels.foldlM target labels with
    | error fault =>
      rw [step] at found
      cases found
    | ok middle =>
      rw [step] at found
      obtain ⟨first, others⟩ := targets_mark _ step
      obtain ⟨second, marked⟩ := target_marks found
      refine ⟨extends_trans first second, ?_⟩
      simp only [same]
      intro label member
      rcases List.mem_append.mp member with listed | last
      · exact marked_mono second.targeted (others label listed)
      · rw [List.mem_singleton.mp last, ← first.opened]
        exact marked
  case h_8 same | h_9 same | h_10 same =>
    cases found
    simp only [same]
    exact ⟨⟨rfl, rfl, List.Subset.refl _⟩, by simp⟩
  case h_11 =>
    cases found
    refine ⟨extends_refl labels, ?_⟩
    split <;> simp_all

lemma scan_append (offset : Nat) (labels : Labels)
    (scanned : scan offset labels (first ++ second) = .ok last) : ∃ middle, scan offset labels first = .ok middle ∧
      scan (offset + first.length) middle second = .ok last := by
  induction first generalizing offset labels with
  | nil => exact ⟨labels, rfl, scanned⟩
  | cons instruction first ih =>
    rw [List.cons_append, scan] at scanned
    cases step : labels.step instruction with
    | error fault =>
      rw [step] at scanned
      cases scanned
    | ok after =>
      rw [step] at scanned
      obtain ⟨middle, before, behind⟩ := ih _ _ scanned
      refine ⟨middle, ?_, ?_⟩
      · rw [scan, step]
        exact before
      · rw [List.length_cons, ← Nat.add_assoc, Nat.add_right_comm]
        exact behind

lemma scan_one (scanned : scan offset labels (instruction :: rest) = .ok last) :
    ∃ after, labels.step instruction = .ok after ∧ scan (offset + 1) after rest = .ok last := by
  rw [scan] at scanned
  cases step : labels.step instruction with
  | error fault =>
    rw [step] at scanned
    cases scanned
  | ok after =>
    rw [step] at scanned
    exact ⟨after, rfl, scanned⟩

lemma step_open (labels : Labels)
    (opens : instruction.op? = some .block ∨ instruction.op? = some .loop ∨ instruction.op? = some .ifElse) : labels.step instruction
      = .ok { labels with opened := labels.next :: labels.opened, next := labels.next + 1 } := by
  rcases opens with same | same | same <;> simp [step, same] <;> rfl

lemma step_close {label : Nat} {outer : List Nat} (closes : instruction.op? = some .endBlock)
    (inside : labels.opened = label :: outer) :
    labels.step instruction = .ok { labels with opened := outer } := by
  simp [step, closes, inside]
  rfl

def Scans (code : Code) (words : List Instruction) : Prop :=
  ∀ (offset : Nat) (labels last : Labels), scan offset labels words = .ok last →
    labels.Extends last code.blocks ∧ Marks last.targeted labels.opened labels.next code

lemma scan_arm (scans : Scans code words) (scanned : scan offset labels (words ++ rest) = .ok last) :
    ∃ middle, labels.Extends middle code.blocks ∧ Marks middle.targeted labels.opened labels.next code ∧
      scan (offset + words.length) middle rest = .ok last := by
  obtain ⟨middle, before, behind⟩ := scan_append _ _ scanned
  obtain ⟨extended, marks⟩ := scans _ _ _ before
  exact ⟨middle, extended, marks, behind⟩

lemma scan_close {rest : Code} (closes : closing.op? = some .endBlock) (scans : Scans rest words)
    {inside : Nat} {middle : Labels} (opened : middle.opened = labels.next :: labels.opened)
    (next : middle.next = labels.next + 1 + inside) (targeted : labels.targeted ⊆ middle.targeted)
    (scanned : scan offset middle (closing :: words) = .ok last) :
    labels.Extends last (inside + 1 + rest.blocks) ∧ middle.targeted ⊆ last.targeted ∧
      Marks last.targeted labels.opened (labels.next + 1 + inside) rest := by
  obtain ⟨after, step, scanned⟩ := scan_one scanned
  rw [step_close closes opened] at step
  cases step
  obtain ⟨extended, marks⟩ := scans _ _ _ scanned
  refine ⟨⟨extended.opened, ?_, List.Subset.trans targeted extended.targeted⟩, extended.targeted, ?_⟩
  · rw [extended.next]
    simp only [next]
    omega
  · rw [← next]
    exact marks

lemma scan_block {opening : Instruction} {body rest : Code} {inner : List Instruction}
    (opens : opening.op? = some .block ∨ opening.op? = some .loop ∨ opening.op? = some .ifElse)
    (closes : closing.op? = some .endBlock) (inside : Scans body inner) (follow : Scans rest words)
    (offset : Nat) (labels last : Labels) (scanned : scan offset labels (opening :: (inner ++ closing :: words)) = .ok last) :
    labels.Extends last (body.blocks + 1 + rest.blocks) ∧
      Marks last.targeted (labels.next :: labels.opened) (labels.next + 1) body ∧
      Marks last.targeted labels.opened (labels.next + 1 + body.blocks) rest := by
  obtain ⟨first, step, scanned⟩ := scan_one scanned
  rw [step_open labels opens] at step
  cases step
  obtain ⟨second, extended, marks, scanned⟩ := scan_arm inside scanned
  obtain ⟨whole, included, after⟩ := scan_close closes follow extended.opened extended.next extended.targeted scanned
  exact ⟨whole, marks_mono included _ _ marks, after⟩

lemma scan_marks {words : List (Option Instruction)} (spelled : Spells code words) : Scans code words.reduceOption := by
  induction spelled with
  | done =>
    intro offset labels last scanned
    cases scanned
    exact ⟨extends_refl labels, trivial⟩
  | mark rest words follow ih => exact ih
  | plain instruction rest words single follow ih =>
    intro offset labels last scanned
    rw [List.reduceOption_cons_of_some] at scanned
    obtain ⟨after, step, scanned⟩ := scan_one scanned
    obtain ⟨first, here⟩ := step_marks single step
    obtain ⟨second, later⟩ := ih _ _ _ scanned
    rw [first.opened, first.next] at later
    refine ⟨?_, ?_, later⟩
    · simpa only [Code.blocks, Nat.zero_add] using extends_trans first second
    · intro label member
      exact marked_mono second.targeted (here label member)
  | block _ _ _ _ _ _ opens closes _ _ ihBody ihRest | loop _ _ _ _ _ _ opens closes _ _ ihBody ihRest
  | guarded _ _ _ _ _ _ opens closes _ _ ihBody ihRest =>
    simp only [List.reduceOption_cons_of_some, List.reduceOption_append]
    exact scan_block (by simp [opens]) closes ihBody ihRest
  | conditional opening middle closing first second rest before after words opens divides closes
      inside other follow ihFirst ihSecond ihRest =>
    intro offset labels last scanned
    simp only [List.reduceOption_cons_of_some, List.reduceOption_append] at scanned
    obtain ⟨entered, step, scanned⟩ := scan_one scanned
    rw [step_open labels (.inr (.inr opens))] at step
    cases step
    obtain ⟨divided, extended, firstMarks, scanned⟩ := scan_arm ihFirst scanned
    obtain ⟨continued, step, scanned⟩ := scan_one scanned
    simp only [Labels.step, divides] at step
    cases step
    obtain ⟨closed, more, secondMarks, scanned⟩ := scan_arm ihSecond scanned
    have total := extends_trans extended more
    obtain ⟨whole, included, afterMarks⟩ := scan_close closes ihRest total.opened total.next total.targeted scanned
    rw [extended.opened, extended.next] at secondMarks
    refine ⟨whole, marks_mono (List.Subset.trans more.targeted included) _ _ firstMarks, marks_mono included _ _ secondMarks, ?_⟩
    rw [Nat.add_assoc (labels.next + 1)]
    exact afterMarks

end WasmLua.Compile
