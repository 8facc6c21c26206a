import WasmLua.Proofs.Description.Reader
import WasmLua.Target.Printer

namespace WasmLua.Exec.Reader

open Option (bind_eq_bind bind_some)
open Target.Program Target List
open Target (Extern)

def Spells (text : String) (tokens : List Token) : Prop :=
  ∀ before, text.toList.foldlM step ⟨.between, before⟩ = some ⟨.between, tokens.reverse ++ before⟩

lemma spells_append (first second : String) (tokens more : List Token) (left : Spells first tokens)
    (right : Spells second more) : Spells (first ++ second) (tokens ++ more) := by
  intro before
  rw [String.toList_append, foldlM_append, left before, bind_eq_bind, bind_some, right, reverse_append, append_assoc]

lemma spells_quoted (value : Bytes) : Spells (Target.Quoted.text value) [.string value] := quoted_read value

variable {α : Type} {program : Target.Program}

lemma spells_join {lines : List α} {line : α → String} {tokens : α → List Token}
    (each : ∀ item ∈ lines, Spells (line item) (tokens item)) : Spells (String.join (lines.map line)) (lines.flatMap tokens) := by
  induction lines with
  | nil => exact fun before => rfl
  | cons first rest ih =>
    rw [map_cons, String.join_cons, flatMap_cons]
    exact spells_append _ _ _ _ (each first mem_cons_self) (ih fun item member => each item (mem_cons_of_mem _ member))

def field (name : String) (value : Bytes) : List Token := [.word name.toList, .equals, .string value]

def typeTokens (entity : Extern) : List Token :=
  if entity.type.isEmpty then [] else .comma :: field "type" entity.type

def importTokens (entity : Extern) : List Token := .opening :: field "module" entity.module ++ .comma :: field "name" entity.name
    ++ .comma :: field "kind" (Bytes.ofString entity.kind.text) ++ typeTokens entity
    ++ [.closing, .comma]

lemma spells_type (entity : Extern) : Spells (typeText entity) (typeTokens entity) := by
  unfold typeText typeTokens
  split
  · exact fun before => rfl
  · exact spells_append ", type = " _ [.comma, .word "type".toList, .equals] _ (fun before => rfl) (spells_quoted _)

lemma spells_import (entity : Extern) : Spells (importText entity) (importTokens entity) := by
  have module := spells_append " module = " _ [.word "module".toList, .equals] _ (fun _ => rfl) (spells_quoted entity.module)
  have name := spells_append _ _ _ _ (spells_append _ ", name = " _
    [.comma, .word "name".toList, .equals] module fun _ => rfl) (spells_quoted entity.name)
  have kind := spells_append _ _ _ _ (spells_append _ ", kind = " _ [.comma, .word "kind".toList, .equals] name fun _ => rfl)
    (spells_quoted (Bytes.ofString entity.kind.text))
  have inner := spells_append _ " " _ [] (spells_append _ _ _ _ kind (spells_type entity)) fun _ => rfl
  have whole := spells_append _ "," _ [.comma] (spells_append _ "\x7d" _ [.closing]
    (spells_append "\x7b" _ [.opening] _ (fun _ => rfl) inner) fun _ => rfl) fun _ => rfl
  simpa [importText, braced, importTokens, field] using whole

def mutableTokens (entity : Extern) : List Token :=
  if entity.mutable then [.comma, .word "mutable".toList, .equals, .word "true".toList] else []

def exportTokens (entity : Extern) : List Token :=
  .opening :: field "name" entity.name ++ .comma :: field "kind" (Bytes.ofString entity.kind.text)
    ++ typeTokens entity ++ mutableTokens entity ++ [.closing, .comma]

lemma spells_export (entity : Extern) : Spells (exportEntryText entity) (exportTokens entity) := by
  have name := spells_append " name = " _ [.word "name".toList, .equals] _ (fun _ => rfl) (spells_quoted entity.name)
  have kind := spells_append _ _ _ _ (spells_append _ ", kind = " _ [.comma, .word "kind".toList, .equals] name fun _ => rfl)
    (spells_quoted (Bytes.ofString entity.kind.text))
  -- The last word is closed by the blank behind it.
  have mutable : Spells ((if entity.mutable then ", mutable = true" else "") ++ " ") (mutableTokens entity) := by
    unfold mutableTokens
    split <;> exact fun _ => rfl
  have inner := spells_append _ _ _ _ (spells_append _ _ _ _ kind (spells_type entity)) mutable
  have whole := spells_append _ "," _ [.comma] (spells_append _ "\x7d" _ [.closing]
    (spells_append "\x7b" _ [.opening] _ (fun _ => rfl) inner) fun _ => rfl) fun _ => rfl
  simpa [exportEntryText, braced, exportTokens, field, String.append_assoc] using whole

def entry (name : String) (value : Literal) : Option Bytes × Literal := (some (Bytes.ofString name), value)

def typeEntries (entity : Extern) : List (Option Bytes × Literal) :=
  if entity.type.isEmpty then [] else [entry "type" (.text entity.type)]

def importLiteral (entity : Extern) : Literal :=
  .table (entriesOf ([entry "module" (.text entity.module), entry "name" (.text entity.name),
    entry "kind" (.text (Bytes.ofString entity.kind.text))] ++ typeEntries entity))

def exportLiteral (entity : Extern) : Literal :=
  .table (entriesOf ([entry "name" (.text entity.name), entry "kind" (.text (Bytes.ofString entity.kind.text))] ++ typeEntries entity
      ++ if entity.mutable then [entry "mutable" (.bool true)] else []))

section Taking

variable (meaning : List Char → Literal)

lemma import_taken (entity : Extern) (table : Open) (outer : List Open) :
    (importTokens entity).foldlM (take? meaning) (.reading .entry table outer)
      = some (.reading .entry (table.give (importLiteral entity)) outer) := by
  unfold importTokens typeTokens importLiteral typeEntries
  split <;> rfl

lemma export_taken (entity : Extern) (table : Open) (outer : List Open) :
    (exportTokens entity).foldlM (take? meaning) (.reading .entry table outer)
      = some (.reading .entry (table.give (exportLiteral entity)) outer) := by
  unfold exportTokens typeTokens mutableTokens exportLiteral typeEntries
  split <;> split <;> rfl

lemma items_taken (tokens : α → List Token) (literal : α → Literal)
    (each : ∀ item table outer, (tokens item).foldlM (take? meaning) (.reading .entry table outer)
      = some (.reading .entry (table.give (literal item)) outer)) (items : List α) (table : Open)
    (outer : List Open) (unnamed : table.key = none) :
    (items.flatMap tokens).foldlM (take? meaning) (.reading .entry table outer) = some (.reading .entry
        ⟨none, (items.map fun item => (none, literal item)).reverse ++ table.entries⟩ outer) := by
  induction items generalizing table with
  | nil =>
    obtain ⟨key, entries⟩ := table
    cases unnamed
    rfl
  | cons first rest ih =>
    rw [flatMap_cons, foldlM_append, each, bind_eq_bind, bind_some, ih (table.give (literal first)) rfl]
    simp [Open.give, unnamed]

end Taking

def headText (program : Target.Program) : String :=
  "\x7b\n\tname = " ++ (Target.Quoted.text program.name ++ ",\n\timports = \x7b\n")

def listText (text : Extern → String) (entities : List Extern) : String :=
  String.join (entities.map fun entity => "\t\t" ++ text entity ++ "\n")

def middleText : String := "\t\x7d,\n\texports = \x7b\n"

def tailText (value : String) : String := "\t\x7d,\n" ++ ("\tinstantiate = " ++ (value ++ ",\n\x7d"))

def tableText (program : Target.Program) : String :=
  headText program ++ (listText importText program.importList ++ (middleText ++ (listText exportEntryText program.exportList ++
      tailText (helper program.namePrefix "instantiate"))))

lemma text_description (program : Target.Program) : ∃ front, program.text = front ++ helper program.namePrefix "module" ++ " = "
      ++ tableText program ++ "\n\nreturn " ++ helper program.namePrefix "module" ++ "\n" := by
  refine ⟨Prelude.text ++ Prelude.publish program.namePrefix ++ String.join (program.setup.map (· ++ "\n"))
    ++ String.join (program.functions.map (·.text program.toNames))
    ++ String.join ((program.exportLines ++ program.instantiateLines).map (· ++ "\n")), ?_⟩
  -- The marks of the table are written line by line.
  have opening : " = \x7b" = " = " ++ "\x7b" := rfl
  have name : "\x7b\n\tname = " = "\x7b" ++ ("\n" ++ ("\t" ++ "name = ")) := rfl
  have imports : ",\n\timports = \x7b\n" = "," ++ ("\n" ++ ("\t" ++ ("imports = \x7b" ++ "\n"))) := rfl
  have exports : "\t\x7d,\n\texports = \x7b\n" = "\t" ++ ("\x7d," ++ ("\n" ++ ("\t" ++ ("exports = \x7b" ++ "\n")))) := rfl
  have lists : "\t\x7d,\n" = "\t" ++ ("\x7d," ++ "\n") := rfl
  have instantiate : "\tinstantiate = " = "\t" ++ "instantiate = " := rfl
  have closing : ",\n\x7d" = "," ++ ("\n" ++ "\x7d") := rfl
  have ending : "\n\nreturn " = "\n" ++ ("\n" ++ "return ") := rfl
  have item : "\t\t" = "\t" ++ "\t" := rfl
  simp only [text, bodyText, descriptionLines,
    indent, tableText, headText, listText, middleText, tailText, map_append, map_cons, map_nil, map_map,
    String.join_append, String.join_cons, String.join_nil, Function.comp_def, opening, name, imports,
    exports, lists, instantiate, closing, ending, item, String.append_assoc, String.append_empty, String.empty_append]

def headTokens (program : Target.Program) : List Token :=
  .opening :: field "name" program.name ++ [.comma, .word "imports".toList, .equals, .opening]

def middleTokens : List Token := [.closing, .comma, .word "exports".toList, .equals, .opening]

def tailTokens (program : Target.Program) : List Token :=
  [.closing, .comma, .word "instantiate".toList, .equals, .word (helper program.namePrefix "instantiate").toList, .comma, .closing]

def descriptionTokens (program : Target.Program) : List Token :=
  headTokens program ++ (program.importList.flatMap importTokens ++ (middleTokens ++
    (program.exportList.flatMap exportTokens ++ tailTokens program)))

def listLiteral {α : Type} (literal : α → Literal) (items : List α) : Literal :=
  .table (entriesOf (items.map fun item => (none, literal item)))

def descriptionLiteral (meaning : List Char → Literal) (program : Target.Program) : Literal :=
  .table (entriesOf [entry "name" (.text program.name), entry "imports" (listLiteral importLiteral program.importList),
    entry "exports" (listLiteral exportLiteral program.exportList),
    entry "instantiate" (wordValue meaning (helper program.namePrefix "instantiate").toList)])

lemma list_closed {literal : α → Literal} {items : List α} :
    Open.literal ⟨none, (items.map fun item => (none, literal item)).reverse ++ []⟩ = listLiteral literal items := by
  rw [Open.literal, append_nil, reverse_reverse, listLiteral]

lemma description_taken {meaning : List Char → Literal} : (descriptionTokens program).foldlM (take? meaning) .start
      = some (.done (descriptionLiteral meaning program)) := by
  let named : Open := ⟨some (Bytes.ofString "imports"), [entry "name" (.text program.name)]⟩
  have head : (headTokens program).foldlM (take? meaning) .start = some (.reading .entry .empty [named]) := rfl
  have imports := items_taken meaning importTokens importLiteral (import_taken meaning) program.importList .empty [named] rfl
  have middle (table : Open) : middleTokens.foldlM (take? meaning) (.reading .entry table [named])
      = some (.reading .entry .empty [(named.give table.literal).named "exports".toList]) := rfl
  have exports := items_taken meaning exportTokens exportLiteral (export_taken meaning) program.exportList .empty
  have tail (table outer : Open) : (tailTokens program).foldlM (take? meaning) (.reading .entry table [outer])
        = some (.done (((outer.give table.literal).named "instantiate".toList).give
          (wordValue meaning (helper program.namePrefix "instantiate").toList)).literal) := rfl
  simp only [descriptionTokens, foldlM_append, head, bind_eq_bind, bind_some, imports, middle, exports _ rfl, tail]
  rw [Open.empty, list_closed, list_closed]
  rfl

lemma begin_word {char : Char} (tokens : List Token) (letter : isWordChar char = true)
    (first : char.isDigit = false) : begin? tokens char = some ⟨.word [char], tokens⟩ := by
  have other (mark : Char) (plain : isWordChar mark = false) : char ≠ mark := by
    rintro rfl
    rw [letter] at plain
    cases plain
  have blank : ¬ (char = ' ' ∨ char = '\t' ∨ char = '\n' ∨ char = '\r') := by
    rintro (same | same | same | same) <;> exact other _ rfl same
  have separator : ¬ (char = ',' ∨ char = ';') := by
    rintro (same | same) <;> exact other _ rfl same
  have word : isWordChar char = true ∧ ¬ char.isDigit = true := ⟨letter, Bool.eq_false_iff.mp first⟩
  rw [begin?, if_neg blank, if_neg (other _ rfl), if_neg (other _ rfl), if_neg separator,
    if_neg (other _ rfl), if_neg (other _ rfl), if_pos word]

lemma word_read (chars read : List Char) (tokens : List Token) (letters : ∀ char ∈ chars, isWordChar char = true) :
    chars.foldlM step ⟨.word read, tokens⟩ = some ⟨.word (chars.reverse ++ read), tokens⟩ := by
  induction chars generalizing read with
  | nil => rfl
  | cons char rest ih =>
    have next : step ⟨.word read, tokens⟩ char = some ⟨.word (char :: read), tokens⟩ := by
      simp only [step, letters char mem_cons_self, if_true]
    rw [foldlM_cons, next, bind_eq_bind, bind_some, ih (char :: read) fun char member => letters char (mem_cons_of_mem _ member)]
    simp

def Worded (text : String) : Prop := ∃ first rest, text.toList = first :: rest ∧ first.isDigit = false ∧
    ∀ char ∈ text.toList, isWordChar char = true

lemma spells_word {text : String} (worded : Worded text) : Spells (text ++ ",") [.word text.toList, .comma] := by
  obtain ⟨first, rest, chars, start, letters⟩ := worded
  rw [chars] at letters
  intro before
  have begun : step ⟨.between, before⟩ first = some ⟨.word [first], before⟩ :=
    begin_word before (letters first mem_cons_self) start
  have ended : step ⟨.word (rest.reverse ++ [first]), before⟩ ','
      = some ⟨.between, .comma :: .word (first :: rest) :: before⟩ := by
    change some (Lexing.mk .between (.comma :: .word (rest.reverse ++ [first]).reverse :: before)) = _
    simp
  rw [String.toList_append, chars, foldlM_append, foldlM_cons, begun, bind_eq_bind, bind_some,
    word_read rest [first] before fun char member => letters char (mem_cons_of_mem _ member),
    bind_some]
  change (step ⟨.word (rest.reverse ++ [first]), before⟩ ',' >>= fun next => some next) = _
  rw [ended]
  rfl

lemma spells_list {text : Extern → String} {tokens : Extern → List Token}
    (each : ∀ entity, Spells (text entity) (tokens entity)) (entities : List Extern) :
    Spells (listText text entities) (entities.flatMap tokens) := by
  apply spells_join
  intro entity _
  have line := spells_append _ "\n" _ [] (spells_append "\t\t" _ [] _ (fun _ => rfl) (each entity)) fun _ => rfl
  simpa using line

lemma spells_description (named : Worded (helper program.namePrefix "instantiate")) :
    Spells (tableText program) (descriptionTokens program) := by
  have head : Spells (headText program) (headTokens program) :=
    spells_append "\x7b\n\tname = " _ [.opening, .word "name".toList, .equals] _ (fun _ => rfl)
      (spells_append _ ",\n\timports = \x7b\n" _ [.comma, .word "imports".toList, .equals, .opening]
        (spells_quoted program.name) fun _ => rfl)
  have middle : Spells middleText middleTokens := fun _ => rfl
  have last : Spells (helper program.namePrefix "instantiate" ++ ",\n\x7d")
      [.word (helper program.namePrefix "instantiate").toList, .comma, .closing] := by
    have closed := spells_append _ "\n\x7d" _ [.closing] (spells_word named) fun _ => rfl
    rwa [String.append_assoc] at closed
  have tail : Spells (tailText (helper program.namePrefix "instantiate")) (tailTokens program) :=
    spells_append "\t\x7d,\n" _ [.closing, .comma] _ (fun _ => rfl)
      (spells_append "\tinstantiate = " _ [.word "instantiate".toList, .equals] _ (fun _ => rfl) last)
  have imports := spells_list spells_import program.importList
  have exports := spells_list spells_export program.exportList
  exact spells_append _ _ _ _ head (spells_append _ _ _ _ imports (spells_append _ _ _ _ middle (spells_append _ _ _ _ exports tail)))

lemma description_read (meaning : List Char → Literal) (named : Worded (helper program.namePrefix "instantiate")) :
    read? meaning (tableText program) = some (descriptionLiteral meaning program) := by
  have spelled : tokens? (tableText program).toList = some (descriptionTokens program) := by
    rw [tokens?, spells_description named []]
    simp
  rw [read?, spelled, bind_eq_bind, bind_some, description_taken]
  rfl

end WasmLua.Exec.Reader
