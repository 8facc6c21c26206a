import WasmLua.Exec.Instantiate
import WasmLua.Proofs.Twin.Bodies

namespace WasmLua.Exec.Stage

open Code
open Mirror Twin List

variable {ω ω' : Type} {mirror : Mirror} {stage : Stage mirror ω ω'} {least : Nat}

variable {values images : List HostValue} {ε σ τ α β : Type} {twin : Twin ε σ τ}
  {types : List Wasm.ValueType} {args : List Value} {own : Store ω} {image : Store ω'}
  {post : Nat → α → β → Prop} {value : Value} {exports : Exports} {name : Bytes} {limit : Nat}

section Embedder

lemma host_lists_mono {larger : Nat} (le : limit ≤ larger)
    (hosts : mirror.HostLists limit values images) : mirror.HostLists larger values images :=
  ⟨fun value member => (hosts_mono le ⟨hosts.1 value member, rfl⟩).1, hosts.2⟩

lemma passed_follows (types : List Wasm.ValueType) (hosts : mirror.HostLists least values images)
    (each : ∀ type value image i, mirror.Hosts least value image →
      twin.Follows least mirror.Shows (action ((type, value), i)) (other ((type, image), i))) :
    twin.Follows least mirror.Lists ((types.zip values).zipIdx.mapM action) ((types.zip images).zipIdx.mapM other) := by
  obtain ⟨inside, rfl⟩ := hosts
  rw [zip_map_right, zipIdx_map, mapM_map]
  refine each_follows _ fun item member => ?_
  obtain ⟨⟨type, value⟩, i⟩ := item
  have found := (of_mem_zip (fst_mem_of_mem_zipIdx member)).2
  exact each type value _ i ⟨inside value found, rfl⟩

lemma host_args_follow (raise : Bytes → Raised) (label : Bytes) {images : List Value} (shows : mirror.Lists least args images) :
    stage.Follows least mirror.HostLists (hostArgs raise label types args) (hostArgs raise label types images) := by
  refine follows_state fun own image related enough => ?_
  refine follows_each (fun _ => ⟨nofun, rfl⟩) (fun _ _ _ _ _ _ le head tail => host_lists_cons (hosts_mono le head) tail)
    (fun _ _ _ _ le => host_lists_mono le) fun item _ => ?_
  obtain ⟨type, i⟩ := item
  have shown := shows_mono enough (lists_getD shows i)
  have matched := of_value_matched type shown (stage.pair related shown)
  dsimp only
  generalize HostValue.ofValue own.pair? type (args.getD i .null) = left at matched
  generalize HostValue.ofValue image.pair? type (images.getD i .null) = right at matched
  cases matched with
  | ok hosts => exact follows_pure fun _ le => hosts_mono le hosts
  | error mismatch => exact follows_throw

lemma host_results_follow (raise : Bytes → Raised) (label : Bytes)
    (hosts : mirror.HostLists least results images) :
    stage.Follows least mirror.Lists (hostResults raise label types results) (hostResults raise label types images) := by
  have length : images.length = results.length := by
    rw [hosts.2, length_map]
  unfold hostResults
  rw [length]
  refine follows_ite follows_raise ?_
  refine passed_follows types hosts fun type value image i hosts => ?_
  have matched := to_value_matched type hosts
  dsimp only
  generalize value.toValue type = left at matched
  generalize image.toValue type = right at matched
  cases matched with
  | ok makes => exact make_follows makes
  | error mismatch => exact follows_throw

end Embedder

/-- What the functions of the embedder and those of hand-written descriptions do. -/
structure Embeds (stage : Stage mirror ω ω') : Prop where
  host : ∀ {least raise args images} id, mirror.Lists least args images →
    stage.Follows least mirror.Lists (callHost raise id args) (callHost raise id images)
  script : ∀ {least id}, mirror.calls (.scripted id) →
    stage.Follows least mirror.Lists (callScript id) (callScript id)

variable (embeds : stage.Embeds)

lemma enter_follows {code : Code} {depth : Nat} (nested : stage.Invokes (code.call depth) (code.call depth))
    {owner : Owner} (index : Nat) {images : List Value} (known : mirror.owns owner)
    (shows : mirror.Lists least args images) : stage.Follows least mirror.Lists (match code.functions.getD index none with
        | some function => runBody ⟨code, code.call depth, owner⟩ function args
        | none => throw .operand : Execution ω (List Value))
      (match code.functions.getD index none with
        | some function => runBody ⟨code, code.call depth, owner⟩ function images
        | none => throw .operand : Execution ω' (List Value)) := by
  cases code.functions.getD index none with
  | none => exact follows_throw
  | some function => exact body_follows known nested function shows

include embeds

lemma call_follows (code : Code) (depth : Nat) : stage.Invokes (code.call depth) (code.call depth) := by
  induction depth with
  | zero => exact fun _ _ _ _ _ _ => follows_throw
  | succ depth ih =>
    intro least target args images inside shows
    cases target with
    | host id => exact embeds.host id shows
    | scripted id => exact embeds.script inside
    | defined owner index => exact enter_follows ih index (mirror.defined.mp inside) shows
    | unbound index =>
      have owners : (images.head?.getD .null).owner = (args.head?.getD .null).owner := by
        obtain ⟨-, same⟩ := lists_head shows
        rw [same]
        cases args.head?.getD .null <;> rfl
      have known : mirror.owns (args.head?.getD .null).owner := by
        cases args.head?.getD .null <;> first | exact mirror.fieldless | exact mirror.barred
      simp only [call, owners]
      exact enter_follows ih index known (lists_tail shows)

omit embeds

section Exports

def embeddings (stage : Stage mirror ω ω') : Twin Failure (Store ω) (Store ω') where
  related := stage.related
  count := stage.count
  failed failure own image := stage.related own image ∨ ∃ raised, failure = .ofRaised raised ∧ stage.failed raised own image
  positive := stage.positive
  fails := .inl

lemma embedded_follows (follows : stage.Follows least post action other) :
    stage.embeddings.Follows least post (Embedding.run action) (Embedding.run other) := by
  intro own image related enough
  have ends := follows own image related enough
  simp only [Embedding.run]
  generalize action own = left at ends
  generalize other image = right at ends
  cases ends with
  | ok more after both => exact .ok more after both
  | error more failed => exact .error more (.inr ⟨_, rfl, failed⟩)

lemma outcome_follows (matched : ∀ count, least ≤ count → Matched (post count) x y) :
    stage.embeddings.Follows least post (Embedding.ofExcept x) (Embedding.ofExcept y) := by
  intro own image related enough
  have both := matched _ enough
  cases both with
  | ok both => exact .ok (Nat.le_refl _) related both
  | error failure => exact .error (Nat.le_refl _) (.inl related)

lemma matched_map_error {φ : Type} {related : α → β → Prop} {x : Except ε α} {y : Except ε β}
    {change : ε → φ} (matched : Matched related x y) : Matched related (x.mapError change) (y.mapError change) := by
  cases matched with
  | ok both => exact .ok both
  | error fault => exact .error (change fault)

lemma arguments_follow (types : List Wasm.ValueType) {args : List HostValue} (hosts : mirror.HostLists least args images) :
    stage.embeddings.Follows least mirror.Lists (Exports.arguments types args) (Exports.arguments types images) := by
  refine passed_follows types hosts fun type value image i hosts => ?_
  refine follows_bind (outcome_follows fun _ le => matched_map_error (to_value_matched type (hosts_mono le hosts)))
    fun _ _ _ _ makes => ?_
  exact follows_modify_get fun _ _ related enough => stage.make related (makes_mono enough makes)

include embeds in
lemma call_value_follows (loaded : Loaded) (inside : ∀ call, value = .function call → mirror.calls call) {images : List Value}
    (shows : mirror.Lists least args images) : stage.Follows least mirror.Lists (loaded.callValue value args)
      (loaded.callValue value images) := by
  cases value with
  | function call =>
    cases call with
    | host id => exact embeds.host id shows
    | _ => exact call_follows embeds loaded.code loaded.depth _ _ _ _ (inside _ rfl) shows
  | _ => exact follows_throw

lemma results_matched (related : stage.related own image) (types : List Wasm.ValueType)
    {values images : List Value} (shows : mirror.Lists least values images) :
    Matched (mirror.HostLists least) (Exports.results own types values) (Exports.results image types images) := by
  unfold Exports.results
  generalize types.zipIdx = items
  induction items with
  | nil => exact .ok ⟨nofun, rfl⟩
  | cons item items ih =>
    obtain ⟨type, i⟩ := item
    rw [mapM_cons, mapM_cons]
    have shown := lists_getD shows i
    have first := of_value_matched type shown (stage.pair related shown)
    refine matched_bind (matched_map_error first) fun value other head => ?_
    exact matched_bind ih fun values others tail => .ok (host_lists_cons head tail)

lemma found_value (found : exports.find loaded name kind = .ok (entity, value)) : value = exports.value name := by
  unfold Exports.find at found
  split at found
  · cases found
  · split at found
    · cases found
      rfl
    · cases found

include embeds in
lemma export_follows (loaded : Loaded) (inside : ∀ call, exports.value name = .function call → mirror.calls call)
    {args : List HostValue} (hosts : mirror.HostLists least args images) :
    stage.embeddings.Follows least mirror.HostLists (exports.call loaded name args) (exports.call loaded name images) := by
  have length : images.length = args.length := by
    rw [hosts.2, length_map]
  have found : Matched (fun entry image => entry.2 = exports.value name ∧ image = entry)
      (exports.find loaded name .func) (exports.find loaded name .func) := by
    cases found : exports.find loaded name .func with
    | error failure => exact .error failure
    | ok entry => exact .ok ⟨found_value found, rfl⟩
  unfold Exports.call
  rw [length]
  refine follows_bind (outcome_follows fun _ _ => found) ?_
  rintro count ⟨entity, function⟩ _ le ⟨rfl, rfl⟩
  refine follows_same (outcome_follows fun _ _ => matched_same _) fun count signature le' => ?_
  refine follows_ite follows_raise ?_
  have hosts := host_lists_mono (Nat.le_trans le le') hosts
  refine follows_bind (arguments_follow signature.params hosts) fun count args images _ shows => ?_
  refine follows_bind (embedded_follows (call_value_follows embeds loaded inside shows)) ?_
  intro count values others _ shows
  refine follows_state fun own image related more => outcome_follows fun count enough => ?_
  exact results_matched related signature.results (lists_mono (Nat.le_trans more enough) shows)

end Exports

end WasmLua.Exec.Stage
