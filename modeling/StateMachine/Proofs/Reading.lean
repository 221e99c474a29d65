import Mathlib.Data.List.Basic
import StateMachine.Declaration
import StateMachine.Diagram.Dot

/-!
# Graph documents are read back

A reader that knows nothing of a definition gets back from its document what was drawn: the states
with their names and descriptions, then the arrows. A quoted name ends at the first quote that no
backslash has taken, where a backslash always takes the next character; a cell ends at the first
angle bracket. Whatever characters a name has, it cannot end early.

* `Dot.quoted_eq_replace`, `Dot.cell_eq_replace`: both escapes are replacements one after the
  other, and here is their order.
* `Dot.unquote`, `Dot.uncell`: read a quoted name or a cell; `Dot.unquote_quoted` and
  `Dot.uncell_cell`: they undo the escapes and stop where the text stops.
* `Dot.Statement`, with `Dot.Statement.text`: what a line says, and the line.
* `Dot.read`: the statements of a document; `Dot.read_document`: it undoes writing.
* `Definition.dot_eq_ok_iff`: the document of a definition is the one of its statements.
* `Definition.read_dot`: the document of a definition that may be drawn is read back, so it
  determines the states, how they are shown, and the arrows.
-/

namespace StateMachine

namespace Dot

/-! ## Escapes as replacements -/

/-- Replaces each occurrence of a character. -/
def replace (c : Char) (text : String) (input : List Char) : List Char :=
  input.flatMap fun x => if x = c then text.toList else [x]

theorem replace_flatMap (c : Char) (text : String) (f : Char → List Char) (input : List Char) :
    replace c text (input.flatMap f) = input.flatMap fun x => replace c text (f x) :=
  List.flatMap_assoc

/-- Inside quotes, backslashes are doubled first, and quotes escaped after that. -/
theorem quoted_eq_replace (text : String) :
    (quoted text).toList = replace '"' "\\\"" (replace '\\' "\\\\" text.toList) := by
  rw [quoted, String.toList_ofList, replace.eq_1 '\\', replace_flatMap]
  refine List.flatMap_congr fun c _ => ?_
  by_cases backslash : c = '\\'
  · subst c
    rfl
  by_cases quote : c = '"'
  · subst c
    rfl
  rw [quotedChar.eq_3 c backslash quote]
  simp [replace, backslash, quote]

/-- In a cell, ampersands are replaced before the brackets whose replacements have one. -/
theorem cell_eq_replace (text : String) :
    (cell text).toList =
      replace '>' "&gt;" (replace '<' "&lt;" (replace '&' "&amp;" text.toList)) := by
  rw [cell, String.toList_ofList, replace.eq_1 '&', replace_flatMap, replace_flatMap]
  refine List.flatMap_congr fun c _ => ?_
  by_cases ampersand : c = '&'
  · subst c
    rfl
  by_cases left : c = '<'
  · subst c
    rfl
  by_cases right : c = '>'
  · subst c
    rfl
  rw [cellChar.eq_4 c ampersand left right]
  simp [replace, ampersand, left, right]

/-! ## Quoted names and cells -/

/-- Reads a name up to the quote that closes it; also what is left. A backslash takes the next
character, whatever it is. -/
def unquote : List Char → Option (List Char × List Char)
  | [] => none
  | '"' :: rest => some ([], rest)
  | '\\' :: c :: rest => (unquote rest).map (Prod.map (c :: ·) id)
  | c :: rest => (unquote rest).map (Prod.map (c :: ·) id)

/-- The characters of a cell, without the escapes. -/
def unescape : List Char → List Char
  | '&' :: 'a' :: 'm' :: 'p' :: ';' :: rest => '&' :: unescape rest
  | '&' :: 'l' :: 't' :: ';' :: rest => '<' :: unescape rest
  | '&' :: 'g' :: 't' :: ';' :: rest => '>' :: unescape rest
  | c :: rest => c :: unescape rest
  | [] => []

/-- Reads a cell up to the first angle bracket; also what is left. -/
def uncell (input : List Char) : List Char × List Char :=
  (unescape (input.takeWhile (· ≠ '<')), input.dropWhile (· ≠ '<'))

/-- A quoted name is read back, and the quote that closes it is the first one not escaped. -/
theorem unquote_quoted (name : String) (rest : List Char) :
    unquote ((quoted name).toList ++ '"' :: rest) = some (name.toList, rest) := by
  rw [quoted, String.toList_ofList]
  induction name.toList with
  | nil => rfl
  | cons c cs ih =>
    rw [List.flatMap_cons, List.append_assoc]
    by_cases backslash : c = '\\'
    · subst c
      simp [quotedChar, unquote, ih]
    by_cases quote : c = '"'
    · subst c
      simp [quotedChar, unquote, ih]
    rw [quotedChar.eq_3 c backslash quote]
    simp [unquote, ih, backslash]

theorem unescape_cell (text : String) : unescape (cell text).toList = text.toList := by
  rw [cell, String.toList_ofList]
  induction text.toList with
  | nil => rfl
  | cons c cs ih =>
    rw [List.flatMap_cons]
    by_cases ampersand : c = '&'
    · subst c
      simp [cellChar, unescape, ih]
    by_cases left : c = '<'
    · subst c
      simp [cellChar, unescape, ih]
    by_cases right : c = '>'
    · subst c
      simp [cellChar, unescape, ih]
    rw [cellChar.eq_4 c ampersand left right]
    simp [unescape, ih, ampersand]

theorem ne_of_mem_cell {text : String} {c : Char} (mem : c ∈ (cell text).toList) : c ≠ '<' := by
  rw [cell, String.toList_ofList, List.mem_flatMap] at mem
  obtain ⟨x, -, mem⟩ := mem
  rintro rfl
  by_cases ampersand : x = '&'
  · simp [cellChar, ampersand] at mem
  by_cases left : x = '<'
  · simp [cellChar, left] at mem
  by_cases right : x = '>'
  · simp [cellChar, right] at mem
  rw [cellChar.eq_4 x ampersand left right, List.mem_singleton] at mem
  exact left mem.symm

/-- A cell is read back, and the angle bracket that ends it is the first one. -/
theorem uncell_cell (text : String) (rest : List Char) :
    uncell ((cell text).toList ++ '<' :: rest) = (text.toList, '<' :: rest) := by
  have inside : ∀ c ∈ (cell text).toList, decide (c ≠ '<') = true :=
    fun c mem => decide_eq_true (ne_of_mem_cell mem)
  rw [uncell, List.takeWhile_append_of_pos inside, List.dropWhile_append_of_pos inside]
  simp [unescape_cell]

theorem unquote_length {input name rest : List Char} (h : unquote input = some (name, rest)) :
    rest.length < input.length := by
  fun_induction unquote input generalizing name with
  | case1 => contradiction
  | case2 input =>
    obtain rfl : input = rest := congrArg Prod.snd (Option.some.inj h)
    simp
  | case3 c input ih =>
    obtain ⟨⟨inner, left⟩, read, same⟩ := Option.map_eq_some_iff.1 h
    obtain rfl : left = rest := congrArg Prod.snd same
    exact Nat.lt_of_lt_of_le (ih read) (by simp [Nat.le_add_right_of_le])
  | case4 c input _ _ ih =>
    obtain ⟨⟨inner, left⟩, read, same⟩ := Option.map_eq_some_iff.1 h
    obtain rfl : left = rest := congrArg Prod.snd same
    exact Nat.lt_trans (ih read) (by simp)

theorem uncell_length (input : List Char) : (uncell input).2.length ≤ input.length :=
  (List.dropWhile_sublist _).length_le

/-! ## Statements -/

/-- What a line of a document says about its definition. -/
inductive Statement
  /-- There is a state, shown by a name and a description. -/
  | state (state : State) (name description : String)
  /-- There is an arrow. -/
  | arrow (arrow : Arrow)
deriving DecidableEq

/-- The start of the table of a state. -/
def table : String :=
  "label=<<TABLE STYLE=\"ROUNDED\" BGCOLOR=\"orange\" BORDER=\"1\" CELLSPACING=\"0\""

/-- What follows it up to the first cell. -/
def head : String := " WIDTH=\"20\"><TR><TD BORDER=\"1\" sides=\"b\">"

/-- What stands between the two cells of a state. -/
def middle : String := "</TD></TR><TR><TD BORDER=\"0\">"

/-- What follows the second cell of a state. -/
def foot : String := "</TD></TR></TABLE>>];\n"

namespace Statement

/-- Whether a statement is about a state. -/
def isState : Statement → Bool
  | state .. => true
  | arrow _ => false

/-- The arrow of a statement about one. -/
def arrow? : Statement → Option Arrow
  | state .. => none
  | arrow a => some a

end Statement

/-- The line of a statement. -/
def Statement.text : Statement → String
  | state s name description =>
    "\"" ++ quoted s.name ++ ("\"" ++ (" [" ++ table)) ++ head ++ cell name ++ middle ++
      cell description ++ foot
  | arrow a => a.dot

/-- The document of some statements. -/
def document (statements : List Statement) : String :=
  String.join (opening ++ statements.map Statement.text ++ [closing])

/-- Passes over a text that has to stand there. -/
def skip (text : String) (input : List Char) : Option (List Char) := input.dropPrefix? text.toList

/-- Reads what follows the first name of an arrow. -/
def arrowTail? (source : List Char) (input : List Char) : Option (Statement × List Char) := do
  let input ← skip " -> \"" input
  let (destination, input) ← unquote input
  let input ← skip "[label=\"" input
  let (trigger, input) ← unquote input
  let input ← skip "];\n" input
  return (.arrow ⟨⟨.ofList source⟩, ⟨.ofList trigger⟩, ⟨.ofList destination⟩⟩, input)

/-- Reads what follows the name of a state. -/
def stateTail? (name : List Char) (input : List Char) : Option (Statement × List Char) := do
  let input ← skip " [" input
  let input ← skip table input
  let input ← skip head input
  let (shown, input) := uncell input
  let input ← skip middle input
  let (description, input) := uncell input
  let input ← skip foot input
  return (.state ⟨.ofList name⟩ (.ofList shown) (.ofList description), input)

/-- Reads a statement; also what is left. -/
def statement? (input : List Char) : Option (Statement × List Char) := do
  let input ← skip "\"" input
  let (name, input) ← unquote input
  arrowTail? name input <|> stateTail? name input

theorem skip_append (text : String) (rest : List Char) :
    skip text (text.toList ++ rest) = some rest :=
  List.dropPrefix?_append_of_beq rest (beq_self_eq_true _)

theorem skip_length {text : String} {input rest : List Char} (h : skip text input = some rest) :
    rest.length ≤ input.length := by
  obtain ⟨passed, rfl, -⟩ := List.dropPrefix?_eq_some_iff.1 h
  simp

theorem arrowTail?_length {source input rest : List Char} {s : Statement}
    (h : arrowTail? source input = some (s, rest)) : rest.length ≤ input.length := by
  simp only [arrowTail?, Option.bind_eq_bind, Option.bind_eq_some_iff, Prod.exists] at h
  obtain ⟨i₁, h₁, _, i₂, h₂, i₃, h₃, _, i₄, h₄, i₅, h₅, h₆⟩ := h
  obtain rfl : i₅ = rest := congrArg Prod.snd (Option.some.inj h₆)
  have := skip_length h₁
  have := unquote_length h₂
  have := skip_length h₃
  have := unquote_length h₄
  have := skip_length h₅
  omega

theorem stateTail?_length {name input rest : List Char} {s : Statement}
    (h : stateTail? name input = some (s, rest)) : rest.length ≤ input.length := by
  simp only [stateTail?, Option.bind_eq_bind, Option.bind_eq_some_iff] at h
  obtain ⟨i₁, h₁, i₂, h₂, i₃, h₃, i₄, h₄, i₅, h₅, h₆⟩ := h
  obtain rfl : i₅ = rest := congrArg Prod.snd (Option.some.inj h₆)
  have := skip_length h₁
  have := skip_length h₂
  have := skip_length h₃
  have := uncell_length i₃
  have := skip_length h₄
  have := uncell_length i₄
  have := skip_length h₅
  omega

theorem statement?_length {input rest : List Char} {s : Statement}
    (h : statement? input = some (s, rest)) : rest.length < input.length := by
  simp only [statement?, Option.bind_eq_bind, Option.bind_eq_some_iff, Prod.exists,
    Option.orElse_eq_orElse, Option.orElse_eq_or, Option.or_eq_some_iff] at h
  obtain ⟨i₁, h₁, name, i₂, h₂, h₃⟩ := h
  have := skip_length h₁
  have := unquote_length h₂
  have : rest.length ≤ i₂.length := by
    obtain arrow | ⟨-, state⟩ := h₃
    · exact arrowTail?_length arrow
    · exact stateTail?_length state
  omega

/-- Reads statements up to the last line of the document. -/
def statements? (input : List Char) : Option (List Statement) :=
  if input = closing.toList then some []
  else
    match _taken : statement? input with
    | none => none
    | some (s, rest) => (statements? rest).map (s :: ·)
termination_by input.length
decreasing_by exact statement?_length _taken

/-- Reads the statements of a document. -/
def read (text : String) : Option (List Statement) :=
  (skip (String.join opening) text.toList).bind statements?

/-! ## Reading what was written -/

theorem unquote_append (name : String) (rest : List Char) :
    unquote ((quoted name).toList ++ ("\"".toList ++ rest)) = some (name.toList, rest) :=
  unquote_quoted name rest

theorem uncell_append_middle (text : String) (rest : List Char) :
    uncell ((cell text).toList ++ (middle.toList ++ rest)) =
      (text.toList, middle.toList ++ rest) :=
  uncell_cell text _

theorem uncell_append_foot (text : String) (rest : List Char) :
    uncell ((cell text).toList ++ (foot.toList ++ rest)) = (text.toList, foot.toList ++ rest) :=
  uncell_cell text _

theorem dot_eq (a : Arrow) :
    a.dot = "\"" ++ quoted a.source.name ++ "\"" ++ " -> \"" ++ quoted a.destination.name ++
      "\"" ++ "[label=\"" ++ quoted a.trigger.name ++ "\"" ++ "];\n" := by
  rw [← String.toList_inj]
  simp [Arrow.dot, Arrow.dotParts]

/-- What follows the name of a state is not taken for the rest of an arrow. -/
theorem arrowTail?_bracket (source rest : List Char) :
    arrowTail? source (" [".toList ++ rest) = none := by
  have differs : skip " -> \"" (" [".toList ++ rest) = none := by
    simp [skip, List.dropPrefix?]
  rw [arrowTail?, differs]
  rfl

/-- The line of a statement is read as the statement, whatever follows. -/
theorem statement?_text (s : Statement) (rest : List Char) :
    statement? (s.text.toList ++ rest) = some (s, rest) := by
  cases s with
  | state s name description =>
    simp only [Statement.text, statement?, stateTail?, String.toList_append, List.append_assoc,
      skip_append, unquote_append, arrowTail?_bracket, uncell_append_middle, uncell_append_foot,
      Option.bind_eq_bind, Option.bind_some, String.ofList_toList]
    rfl
  | arrow a =>
    simp only [Statement.text, dot_eq, statement?, arrowTail?, String.toList_append,
      List.append_assoc, skip_append, unquote_append, Option.bind_eq_bind, Option.bind_some,
      String.ofList_toList]
    rfl

/-- Neither a name nor a description can make a line look like the end of the document. -/
theorem text_ne_closing (s : Statement) (rest : List Char) :
    s.text.toList ++ rest ≠ closing.toList := by
  intro same
  obtain ⟨tail, starts⟩ : ∃ tail, s.text.toList ++ rest = '"' :: tail := by
    cases s with
    | state s name description =>
      simp only [Statement.text, String.toList_append, List.append_assoc]
      exact ⟨_, rfl⟩
    | arrow a =>
      simp only [Statement.text, dot_eq, String.toList_append, List.append_assoc]
      exact ⟨_, rfl⟩
  have first : closing.toList.head? = some '\x7d' := by decide
  rw [← same, starts] at first
  exact absurd (Option.some.inj first) (by decide)

/-- Statements are read back from their lines. -/
theorem statements?_texts (statements : List Statement) :
    statements? (String.join (statements.map Statement.text ++ [closing])).toList =
      some statements := by
  induction statements with
  | nil =>
    have last : String.join [closing] = closing := by simp
    rw [List.map_nil, List.nil_append, last, statements?, if_pos rfl]
  | cons s rest ih =>
    rw [List.map_cons, List.cons_append, String.join_cons, String.toList_append, statements?,
      if_neg (text_ne_closing s _)]
    split
    next refused =>
      rw [statement?_text] at refused
      contradiction
    next s' rest' taken =>
      rw [statement?_text] at taken
      obtain ⟨rfl, rfl⟩ := Prod.mk.inj (Option.some.inj taken)
      rw [ih, Option.map_some]

/-- The document of some statements is read as these statements. -/
theorem read_document (statements : List Statement) :
    read (document statements) = some statements := by
  rw [read, document, List.append_assoc, String.join_append, String.toList_append, skip_append,
    Option.bind_some, statements?_texts]

end Dot

variable {π ν : Type}

/-- What the document says about a state. -/
def Node.statement (n : Node π ν) : Dot.Statement :=
  .state n.state n.displayName (n.caption.description.getD "")

theorem Node.text_statement (n : Node π ν) : n.statement.text = n.dot := by
  have cut :
      "\" [label=<<TABLE STYLE=\"ROUNDED\" BGCOLOR=\"orange\" BORDER=\"1\" CELLSPACING=\"0\"" =
        "\"" ++ (" [" ++ Dot.table) := by
    decide
  -- both texts are the same concatenation once the opening of the table is cut in this way
  simp only [Node.dot, Node.dotParts, cut, String.join_cons, String.join_nil, String.append_empty,
    Node.statement, Dot.Statement.text, String.append_assoc]
  rfl

namespace Definition

/-- What the document of a definition says: its states in the order of configuration, then its
arrows. -/
def statements (d : Definition π ν) : List Dot.Statement :=
  d.nodes.map Node.statement ++ d.arrows.map .arrow

theorem dotLines_eq (d : Definition π ν) :
    d.dotLines = Dot.opening ++ d.statements.map Dot.Statement.text ++ [Dot.closing] := by
  have states : d.nodes.map (Dot.Statement.text ∘ Node.statement) = d.nodes.map Node.dot :=
    List.map_congr_left fun n _ => n.text_statement
  have arrows : d.arrows.map (Dot.Statement.text ∘ .arrow) = d.arrows.map Arrow.dot :=
    List.map_congr_left fun a _ => by rw [Function.comp_apply, Dot.Statement.text]
  rw [statements, List.map_append, List.map_map, List.map_map, states, arrows, dotLines]
  simp only [List.append_assoc]

theorem dot_eq_ok_iff {d : Definition π ν} {text : String} :
    d.dot = .ok text ↔ d.refusal? = none ∧ text = Dot.document d.statements := by
  rw [dot, Dot.document, ← dotLines_eq]
  cases d.refusal? with
  | none => simp [eq_comm]
  | some reason => simp

theorem filter_statements (d : Definition π ν) :
    d.statements.filter Dot.Statement.isState = d.nodes.map Node.statement := by
  have states : (d.nodes.map Node.statement).filter Dot.Statement.isState =
      d.nodes.map Node.statement := by
    refine List.filter_eq_self.2 fun s mem => ?_
    obtain ⟨n, -, rfl⟩ := List.mem_map.1 mem
    rfl
  have arrows : (d.arrows.map Dot.Statement.arrow).filter Dot.Statement.isState = [] := by
    refine List.filter_eq_nil_iff.2 fun s mem => ?_
    obtain ⟨a, -, rfl⟩ := List.mem_map.1 mem
    exact Bool.false_ne_true
  rw [statements, List.filter_append, states, arrows, List.append_nil]

theorem filterMap_statements (d : Definition π ν) :
    d.statements.filterMap Dot.Statement.arrow? = d.arrows := by
  have states : d.nodes.filterMap (Dot.Statement.arrow? ∘ Node.statement) = [] :=
    List.filterMap_eq_nil_iff.2 fun _ _ => rfl
  have arrows : d.arrows.filterMap (Dot.Statement.arrow? ∘ .arrow) = d.arrows :=
    List.filterMap_some
  rw [statements, List.filterMap_append, List.filterMap_map, List.filterMap_map, states, arrows,
    List.nil_append]

/-- The document of a definition that may be drawn is read back: each state with the name and the
description it is shown by, in the order of configuration, then each arrow. Whatever a quoted name
or a cell holds, it is read up to its own end. So documents that are equal say the same. -/
theorem read_dot (d : Definition π ν) (renderable : d.refusal? = none) :
    ∃ text, d.dot = .ok text ∧
      Dot.read text = some (d.nodes.map Node.statement ++ d.arrows.map .arrow) ∧
      (∀ name rest, Dot.unquote ((Dot.quoted name).toList ++ '"' :: rest) =
        some (name.toList, rest)) ∧
      (∀ content rest, Dot.uncell ((Dot.cell content).toList ++ '<' :: rest) =
        (content.toList, '<' :: rest)) ∧
      ∀ {π' ν' : Type} (d' : Definition π' ν'), d'.dot = .ok text →
        d'.nodes.map Node.statement = d.nodes.map Node.statement ∧ d'.arrows = d.arrows := by
  refine ⟨Dot.document d.statements, dot_eq_ok_iff.2 ⟨renderable, rfl⟩, Dot.read_document _,
    Dot.unquote_quoted, Dot.uncell_cell, ?_⟩
  intro π' ν' d' drawn
  obtain ⟨-, same⟩ := dot_eq_ok_iff.1 drawn
  have read := congrArg Dot.read same
  rw [Dot.read_document, Dot.read_document] at read
  have said := Option.some.inj read
  constructor
  · rw [← filter_statements, ← filter_statements, said]
  · rw [← filterMap_statements, ← filterMap_statements, said]

/-- A state whose name and description look like lines of a document. -/
def hostile : Definition Unit Unit :=
  .build [.configure ⟨"a\\\" -> \"b\\"⟩ ⟨some "</TD>&lt;", some "&amp;\"];\n"⟩
    [.permit ⟨"\\\"];\n\x7d\n"⟩ ⟨"a\\\" -> \"b\\"⟩ none]]

theorem read_dot_hostile :
    hostile.refusal? = none ∧ ∃ text, hostile.dot = .ok text ∧
      Dot.read text = some (hostile.nodes.map Node.statement ++ hostile.arrows.map .arrow) := by
  have renderable : hostile.refusal? = none := by decide +kernel
  obtain ⟨text, drawn, read, -⟩ := read_dot hostile renderable
  exact ⟨renderable, text, drawn, read⟩

end Definition

end StateMachine
