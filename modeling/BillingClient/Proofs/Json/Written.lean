import BillingClient.Proofs.Json.StringText
import BillingClient.Proofs.Text.Utf8

/-!
Contract: the structure that is read from the text of a value.

`Value.node` is the structure that `Value.chars` writes. Main statement:
`read_encode_text`, by which reading the bytes of a value's text gives exactly that
structure, for every value. Numbers and strings are read by their own modules;
here an induction over the value carries the bound of the reader, which is always twice
the length of what is left of the value.
-/

namespace BillingClient.Json

open BillingClient.Number
open BillingClient.Text
open BillingClient.Text.Utf8 (Symbol)

mutual

/-- The structure of a value's text. -/
def Value.node : Value → Node
  | .null => .null
  | .bool value => .bool value
  | .number value => .number (.of value)
  | .string text => .string (.of text)
  | .array elements => .array (Value.elementNodes elements)
  | .object members => .object (Value.memberNodes members)

/-- The structure of the elements of an array. -/
def Value.elementNodes : List Value → List Node
  | [] => []
  | element :: rest => element.node :: Value.elementNodes rest

/-- The structure of the members of an object. -/
def Value.memberNodes : List (String × Value) → List (StringText × Node)
  | [] => []
  | (key, value) :: rest => (.of key, value.node) :: Value.memberNodes rest

end

theorem Value.elementNodes_eq_map (elements : List Value) :
    Value.elementNodes elements = elements.map Value.node := by
  induction elements with
  | nil => rfl
  | cons element rest inductionHypothesis =>
      rw [Value.elementNodes, inductionHypothesis, List.map_cons]

theorem Value.memberNodes_eq_map (members : List (String × Value)) :
    Value.memberNodes members =
      members.map fun member => (StringText.of member.1, member.2.node) := by
  induction members with
  | nil => rfl
  | cons member rest inductionHypothesis =>
      rw [Value.memberNodes, inductionHypothesis, List.map_cons]

/-! ## The first character -/

/-- Whether a character may open the text of a value. -/
def OpensValue (c : Char) : Prop :=
  isJsonBlank c = false ∧ c ≠ ']'

theorem opensValue_digitChar {digit : Nat} (small : digit < 10) : OpensValue digit.digitChar := by
  have every : ∀ digit < 10, isJsonBlank digit.digitChar = false ∧ digit.digitChar ≠ ']' := by
    decide
  exact every digit small

theorem NumberText.unsignedChars_cons {text : NumberText} (wellFormed : text.IsWellFormed) :
    ∃ digit rest, digit < 10 ∧ text.unsignedChars = digit.digitChar :: rest := by
  obtain ⟨first, others, shape⟩ := List.exists_cons_of_ne_nil wellFormed.whole.nonempty
  have small : first < 10 := wellFormed.whole.small first (by simp [shape])
  rw [unsignedChars, shape]
  exact ⟨first, _, small, rfl⟩

theorem NumberText.chars_opens {text : NumberText} (wellFormed : text.IsWellFormed) :
    ∃ c rest, text.chars = c :: rest ∧ OpensValue c := by
  obtain ⟨first, others, small, shape⟩ := unsignedChars_cons wellFormed
  unfold chars
  split
  · exact ⟨'-', _, rfl, by decide, by decide⟩
  · exact ⟨first.digitChar, others, shape, opensValue_digitChar small⟩

theorem Value.chars_opens (value : Value) :
    ∃ c rest, value.chars .json = c :: rest ∧ OpensValue c := by
  match value with
  | .null => exact ⟨'n', _, rfl, by decide, by decide⟩
  | .bool true => exact ⟨'t', _, rfl, by decide, by decide⟩
  | .bool false => exact ⟨'f', _, rfl, by decide, by decide⟩
  | .number value =>
      rw [NumberText.value_chars_number]
      exact NumberText.chars_opens (NumberText.of_isWellFormed value)
  | .string text => exact ⟨'"', _, rfl, by decide, by decide⟩
  | .array elements => exact ⟨'[', _, rfl, by decide, by decide⟩
  | .object members => exact ⟨'{', _, rfl, by decide, by decide⟩

theorem Value.charsOfElements_cons (element next : Value) (others : List Value) :
    Value.charsOfElements .json (element :: next :: others) =
      element.chars .json ++ ',' :: Value.charsOfElements .json (next :: others) := by
  rw [Value.charsOfElements]
  simp

theorem Value.charsOfMembers_cons (member next : String × Value)
    (others : List (String × Value)) :
    Value.charsOfMembers .json (member :: next :: others) =
      writeString member.1 ++ ':' :: member.2.chars .json ++
        ',' :: Value.charsOfMembers .json (next :: others) := by
  rw [Value.charsOfMembers]
  simp

theorem Value.charsOfElements_opens (element : Value) (others : List Value) :
    ∃ c rest, Value.charsOfElements .json (element :: others) = c :: rest ∧ OpensValue c := by
  obtain ⟨c, tail, shape, opens⟩ := element.chars_opens
  cases others with
  | nil =>
      rw [Value.charsOfElements, shape]
      exact ⟨c, _, rfl, opens⟩
  | cons next others =>
      rw [Value.charsOfElements_cons, shape]
      exact ⟨c, _, rfl, opens⟩

theorem Value.charsOfMembers_opens (member : String × Value) (others : List (String × Value)) :
    ∃ rest, Value.charsOfMembers .json (member :: others) = '"' :: rest := by
  cases others with
  | nil =>
      rw [Value.charsOfMembers]
      exact ⟨_, rfl⟩
  | cons next others =>
      rw [Value.charsOfMembers_cons]
      exact ⟨_, rfl⟩

theorem skipBlanks_char {c : Char} (notBlank : isJsonBlank c = false) (rest : Input) :
    skipBlanks (.char c :: rest) = .char c :: rest := by
  rw [skipBlanks, notBlank]
  rfl

/-! ## Numbers -/

/-- A number is read as a value of its own. -/
theorem readNode_number {text : NumberText} {bound : Nat} {rest : Input}
    (wellFormed : text.IsWellFormed) (ends : rest.EndsNumber) :
    readNode (bound + 1) (written text.chars rest) = some (.number text, rest) := by
  have unsigned := readUnsigned_written wellFormed ends
  unfold NumberText.chars
  by_cases negative : text.negative = true
  · rw [negative] at unsigned
    rw [if_pos negative, List.singleton_append, written_cons, readNode,
      skipBlanks_char (by decide)]
    simp only [unsigned, Option.map_some]
  · have positive : text.negative = false := by simpa using negative
    obtain ⟨first, others, small, shape⟩ := NumberText.unsignedChars_cons wellFormed
    rw [if_neg negative, List.nil_append, readNode]
    rw [positive] at unsigned
    rw [shape, written_cons] at unsigned ⊢
    have noOther : first.digitChar ∉ ['n', 't', 'f', '"', '-', '[', '{'] := by
      have every : ∀ digit < 10, digit.digitChar ∉ ['n', 't', 'f', '"', '-', '[', '{'] := by
        decide
      exact every first small
    rw [skipBlanks_char (opensValue_digitChar small).1]
    generalize first.digitChar = c at noOther unsigned ⊢
    split
    case h_8 => rw [unsigned, Option.map_some]
    all_goals
      rename_i starts
      cases starts
      exact absurd (by simp) noOther

/-! ## Arrays and objects -/

theorem readNode_array {c : Char} (opens : OpensValue c) (bound : Nat) (tail : Input) :
    readNode (bound + 1) (.char '[' :: .char c :: tail) =
      (readElements bound (.char c :: tail)).map fun (nodes, rest) => (.array nodes, rest) := by
  rw [readNode, skipBlanks_char (by decide)]
  simp only [skipBlanks_char opens.1]
  split
  · rename_i starts
    cases starts
    exact absurd rfl opens.2
  · rfl

theorem readNode_object (bound : Nat) (tail : Input) :
    readNode (bound + 1) (.char '{' :: .char '"' :: tail) =
      (readMembers bound (.char '"' :: tail)).map fun (members, rest) => (.object members, rest) := by
  rw [readNode, skipBlanks_char (by decide)]
  rfl

mutual

/-- A value is read back in front of anything that cannot belong to a number. -/
theorem readNode_written (value : Value) (bound : Nat) (rest : Input)
    (enough : 2 * (value.chars .json).length ≤ bound) (ends : rest.EndsNumber) :
    readNode bound (written (value.chars .json) rest) = some (value.node, rest) := by
  obtain ⟨bound, rfl⟩ : ∃ below, bound = below + 1 := by
    obtain ⟨c, others, shape, -⟩ := value.chars_opens
    rw [shape, List.length_cons] at enough
    exact ⟨bound - 1, by omega⟩
  match value with
  | .null => rfl
  | .bool true => rfl
  | .bool false => rfl
  | .number number =>
      rw [NumberText.value_chars_number]
      exact readNode_number (NumberText.of_isWellFormed number) ends
  | .string text =>
      rw [Value.chars, writeString, List.cons_append, written_cons, readNode,
        skipBlanks_char (by decide)]
      simp only [readString_written, Option.map_some, Value.node]
  | .array [] => rfl
  | .array (element :: others) =>
      rw [Value.chars, List.length_cons] at enough
      have inside := readElements_written element others bound rest (by omega)
      obtain ⟨c, tail, shape, opens⟩ := Value.charsOfElements_opens element others
      rw [Value.chars, written_cons]
      rw [shape, written_cons] at inside ⊢
      rw [readNode_array opens, inside, Option.map_some, Value.node]
  | .object [] => rfl
  | .object (member :: others) =>
      rw [Value.chars, List.length_cons] at enough
      have inside := readMembers_written member others bound rest (by omega)
      obtain ⟨tail, shape⟩ := Value.charsOfMembers_opens member others
      rw [Value.chars, written_cons]
      rw [shape, written_cons] at inside ⊢
      rw [readNode_object, inside, Option.map_some, Value.node]

/-- The elements of an array are read back, after its opening bracket. -/
theorem readElements_written (element : Value) (others : List Value) (bound : Nat) (rest : Input)
    (enough : 2 * (Value.charsOfElements .json (element :: others)).length ≤ bound) :
    readElements bound (written (Value.charsOfElements .json (element :: others)) rest) =
      some (Value.elementNodes (element :: others), rest) := by
  match others with
  | [] =>
      rw [Value.charsOfElements, List.length_append, List.length_singleton] at enough
      obtain ⟨bound, rfl⟩ : ∃ below, bound = below + 1 := ⟨bound - 1, by omega⟩
      have first := readNode_written element bound (.char ']' :: rest)
        (by omega) (endsNumber_cons (by decide) (by decide))
      rw [Value.charsOfElements, written_append, written_cons, written_nil, readElements, first]
      rfl
  | next :: others =>
      rw [Value.charsOfElements_cons, List.length_append, List.length_cons] at enough
      obtain ⟨bound, rfl⟩ : ∃ below, bound = below + 1 := ⟨bound - 1, by omega⟩
      have first := readNode_written element bound
        (.char ',' :: written (Value.charsOfElements .json (next :: others)) rest)
        (by omega) (endsNumber_cons (by decide) (by decide))
      have remaining := readElements_written next others bound rest (by omega)
      rw [Value.charsOfElements_cons, written_append, written_cons, readElements, first]
      simp only [Option.bind_eq_bind, Option.bind_some, skipBlanks_char (c := ',') (by decide),
        remaining, Value.elementNodes]

/-- The members of an object are read back, after its opening brace. -/
theorem readMembers_written (member : String × Value) (others : List (String × Value))
    (bound : Nat) (rest : Input)
    (enough : 2 * (Value.charsOfMembers .json (member :: others)).length ≤ bound) :
    readMembers bound (written (Value.charsOfMembers .json (member :: others)) rest) =
      some (Value.memberNodes (member :: others), rest) := by
  obtain ⟨key, value⟩ := member
  match others with
  | [] =>
      rw [Value.charsOfMembers, List.length_append, List.length_append, List.length_cons,
        List.length_singleton] at enough
      obtain ⟨bound, rfl⟩ : ∃ below, bound = below + 1 := ⟨bound - 1, by omega⟩
      have only := readNode_written value bound (.char '}' :: rest)
        (by omega) (endsNumber_cons (by decide) (by decide))
      rw [Value.charsOfMembers, written_append, written_append, writeString, List.cons_append,
        written_cons, readMembers, skipBlanks_char (by decide)]
      simp only [readString_written, written_cons, written_nil, Option.bind_eq_bind,
        Option.bind_some, skipBlanks_char (c := ':') (by decide), only,
        skipBlanks_char (c := '}') (by decide), Value.memberNodes]
  | next :: others =>
      rw [Value.charsOfMembers_cons, List.length_append, List.length_append, List.length_cons,
        List.length_cons] at enough
      obtain ⟨bound, rfl⟩ : ∃ below, bound = below + 1 := ⟨bound - 1, by omega⟩
      have first := readNode_written value bound
        (.char ',' :: written (Value.charsOfMembers .json (next :: others)) rest)
        (by dsimp only at enough; omega) (endsNumber_cons (by decide) (by decide))
      have remaining := readMembers_written next others bound rest (by omega)
      rw [Value.charsOfMembers_cons, written_append, written_append, writeString,
        List.cons_append, written_cons, readMembers, skipBlanks_char (by decide)]
      simp only [readString_written, written_cons, Option.bind_eq_bind, Option.bind_some,
        skipBlanks_char (c := ':') (by decide), first, skipBlanks_char (c := ',') (by decide),
        remaining, Value.memberNodes]

end

/-! ## Texts -/

/-- The bytes of a value's text are read as the value's structure. -/
theorem read_encode_text (value : Value) : read (Utf8.encode value.text) = some value.node := by
  have symbols : Utf8.symbols (Utf8.encode value.text) = written (value.chars .json) [] := by
    rw [Utf8.symbols_encode, Value.text, Value.textIn, String.toList_ofList, written,
      List.append_nil]
  have enough : 2 * (value.chars .json).length ≤ 2 * (written (value.chars .json) []).length + 2 := by
    rw [written, List.append_nil, List.length_map]
    omega
  rw [read, symbols, readSymbols, readNode_written value _ [] enough endsNumber_nil]
  rfl

end BillingClient.Json
