import BootChain.Proofs.Json.Compact
import Mathlib.Algebra.BigOperators.Group.List.Basic

namespace BootChain.Json

/-- Reads the digits of a number from the start of a text, and gives what follows them. Only zero
    itself starts with a zero. -/
def readDigits (chars : List Char) : Option (Nat × List Char) := do
  let digits := chars.takeWhile Char.isDigit
  let n ← Decimal.digits? digits
  if Nat.toDigits 10 n = digits then some (n, chars.dropWhile Char.isDigit) else none

/-- Reads a whole number, with a minus sign before its digits or without. -/
def readInt : List Char → Option (Int × List Char)
  | '-' :: rest => (readDigits rest).map fun (n, after) => (-n, after)
  | chars => (readDigits chars).map fun (n, after) => (n, after)

/-- Reads at least one item and at most `count`, with commas between them, up to a closing bracket,
    and gives what follows the bracket. -/
def readItems {α : Type} (readItem : List Char → Option (α × List Char)) (close : Char) :
    Nat → List Char → Option (List α × List Char)
  | 0, _ => none
  | count + 1, chars =>
    match readItem chars with
    | some (item, c :: rest) =>
      if c = close then some ([item], rest)
      else if c = ',' then
        (readItems readItem close count rest).map fun (items, after) => (item :: items, after)
      else none
    | _ => none

/-- Reads a member of an object: its quoted name, a colon and its value. -/
def readMember (readValue : List Char → Option (Json × List Char)) :
    List Char → Option ((String × Json) × List Char)
  | '"' :: rest =>
    match quotedRest? rest with
    | some (name, ':' :: rest) =>
      (readValue rest).map fun (value, after) => ((String.ofList name, value), after)
    | _ => none
  | _ => none

/-- Reads a document, without any blank between its tokens, from the start of a text, and gives what
    follows it. Documents stand inside each other at most `depth` deep. -/
def readDocument : Nat → List Char → Option (Json × List Char)
  | 0, _ => none
  | depth + 1, chars =>
    match chars with
    | 'n' :: 'u' :: 'l' :: 'l' :: rest => some (null, rest)
    | 't' :: 'r' :: 'u' :: 'e' :: rest => some (bool true, rest)
    | 'f' :: 'a' :: 'l' :: 's' :: 'e' :: rest => some (bool false, rest)
    | '"' :: rest =>
      (quotedRest? rest).map fun (chars, after) => (str (String.ofList chars), after)
    | '[' :: ']' :: rest => some (arr [], rest)
    | '[' :: rest =>
      (readItems (readDocument depth) ']' rest.length rest).map fun (items, after) =>
        (arr items, after)
    | '{' :: '}' :: rest => some (obj [], rest)
    | '{' :: rest =>
      (readItems (readMember (readDocument depth)) '}' rest.length rest).map
        fun (members, after) => (obj members, after)
    | _ => (readInt chars).map fun (value, after) => (int value, after)

/-- The document that a text without any blank between its tokens spells. -/
def parse? (text : String) : Option Json :=
  match readDocument text.length text.toList with
  | some (document, []) => some document
  | _ => none

variable {rest x : List Char}

theorem readDigits_toDigits (n : Nat) (hrest : Text.EndsNumber rest) :
    readDigits (Nat.toDigits 10 n ++ rest) = some (n, rest) := by
  have hdigits := Text.takeWhile_toDigits n hrest
  have hafter :=
    List.takeWhile_append_dropWhile (p := Char.isDigit) (l := Nat.toDigits 10 n ++ rest)
  rw [hdigits] at hafter
  have hread : Decimal.digits? (Nat.toDigits 10 n) = some n := Decimal.digits?_eq_some_iff.2
    ⟨Nat.toDigits_ne_nil, fun c => Text.isDigit_of_mem_toDigits, Nat.ofDigitChars_ten_toDigits⟩
  rw [readDigits, hdigits, hread, List.append_cancel_left hafter]
  exact if_pos rfl

theorem readInt_append (n : Int) (hrest : Text.EndsNumber rest) :
    readInt ((toString n).toList ++ rest) = some (n, rest) := by
  cases n with
  | ofNat n =>
    obtain ⟨d, digits, hdigits, hd⟩ := exists_toDigits_eq_cons n
    rw [Int.ofNat_eq_natCast, toList_int_natCast, readInt.eq_def]
    split
    next more heq =>
      rw [hdigits] at heq
      rw [(List.cons.inj heq).1] at hd
      cases hd
    next =>
      rw [readDigits_toDigits n hrest]
      rfl
  | negSucc n =>
    rw [toList_int_negSucc, List.cons_append, readInt, readDigits_toDigits _ hrest]
    rfl

section

variable {α : Type} {readItem : List Char → Option (α × List Char)} {f : α → List Char}
  {close : Char} {items : List α} {count : Nat}

/-- Items that are read back before a comma or a bracket are read back from the list of them. -/
theorem readItems_commaSeparated (hcomma : close ≠ ',') (hdigit : close.isDigit = false)
    (hread : ∀ item ∈ items, ∀ x, Text.EndsNumber x → readItem (f item ++ x) = some (item, x))
    (hitems : items ≠ []) (hcount : items.length ≤ count) :
    readItems readItem close count (commaSeparated (items.map f) ++ close :: rest) =
      some (items, rest) := by
  induction items generalizing count with
  | nil => exact absurd rfl hitems
  | cons item items ih =>
    obtain ⟨hfirst, hothers⟩ := List.forall_mem_cons.1 hread
    cases count with
    | zero => cases hcount
    | succ count =>
      cases items with
      | nil =>
        rw [List.map_singleton, commaSeparated_singleton, readItems,
          hfirst _ (Text.endsNumber_cons hdigit)]
        exact if_pos rfl
      | cons next items =>
        have hrest := ih hothers (List.cons_ne_nil _ _) (Nat.le_of_succ_le_succ hcount)
        rw [List.map_cons, List.map_cons, commaSeparated_cons_cons, ← List.map_cons,
          List.append_assoc, List.cons_append, readItems, hfirst _ (Text.endsNumber_cons rfl)]
        dsimp only
        rw [if_neg hcomma.symm, if_pos rfl, hrest]
        rfl

theorem length_le_of_mem_commaSeparated {item : α} (hmem : item ∈ items) :
    (f item).length ≤ (commaSeparated (items.map f)).length := by
  have hpiece := List.mem_map_of_mem (f := f) hmem
  have hpart := List.sublist_flatten_of_mem (List.mem_map_of_mem (f := (',' :: ·)) hpiece)
  rw [← List.flatMap_def, ← cons_commaSeparated (List.ne_nil_of_mem hpiece)] at hpart
  exact Nat.le_of_succ_le_succ hpart.length_le

theorem length_le_commaSeparated (items : List α) :
    items.length ≤ (commaSeparated (items.map f)).length + 1 := by
  cases items with
  | nil => exact Nat.zero_le _
  | cons item items =>
    rw [← List.length_cons (a := ','), cons_commaSeparated (by simp), List.length_flatMap,
      List.map_map]
    refine (List.length_map _).symm.le.trans (List.length_le_sum_of_one_le _ fun n hn => ?_)
    obtain ⟨piece, -, rfl⟩ := List.mem_map.1 hn
    exact Nat.le_add_left _ _

/-- As many items as there are characters are enough. -/
theorem readItems_length (hcomma : close ≠ ',') (hdigit : close.isDigit = false)
    (hread : ∀ item ∈ items, ∀ x, Text.EndsNumber x → readItem (f item ++ x) = some (item, x))
    (hitems : items ≠ []) {chars : List Char}
    (hchars : chars = commaSeparated (items.map f) ++ close :: rest) :
    readItems readItem close chars.length chars = some (items, rest) := by
  have hcount := length_le_commaSeparated (f := f) items
  subst hchars
  refine readItems_commaSeparated hcomma hdigit hread hitems ?_
  rw [List.length_append, List.length_cons]
  omega

end

section

variable {depth : Nat} {chars : List Char}

theorem readDocument_arr (hopen : ∀ y, chars ≠ ']' :: y) :
    readDocument (depth + 1) ('[' :: chars) =
      (readItems (readDocument depth) ']' chars.length chars).map fun (items, after) =>
        (arr items, after) := by
  rw [readDocument]
  exact hopen

theorem readDocument_obj (hopen : ∀ y, chars ≠ '}' :: y) :
    readDocument (depth + 1) ('{' :: chars) =
      (readItems (readMember (readDocument depth)) '}' chars.length chars).map
        fun (members, after) => (obj members, after) := by
  rw [readDocument]
  exact hopen

/-- A text that starts as numbers do is read as a number. -/
theorem readDocument_of_kindOf {c : Char} (hkind : kindOf c = some 2) :
    readDocument (depth + 1) (c :: chars) =
      (readInt (c :: chars)).map fun (value, after) => (int value, after) := by
  rw [readDocument]
  all_goals
    intro more heq
    cases heq
    cases hkind

theorem readDocument_int (n : Int) (hrest : Text.EndsNumber rest) :
    readDocument (depth + 1) (compactChars (int n) ++ rest) = some (int n, rest) := by
  obtain ⟨c, more, hchars, hkind⟩ := exists_compactChars_eq_cons (int n)
  have hread := readInt_append n hrest
  rw [← compactChars, hchars, List.cons_append] at hread
  rw [hchars, List.cons_append, readDocument_of_kindOf hkind, hread]
  rfl

theorem readDocument_str (text : String) :
    readDocument (depth + 1) (compactChars (str text) ++ rest) = some (str text, rest) := by
  rw [compactChars, quoted, List.cons_append, List.append_assoc, List.singleton_append,
    readDocument, quotedRest?_quoted]
  simp only [Option.map_some, String.ofList_toList]

theorem readMember_append {readValue : List Char → Option (Json × List Char)} {name : String}
    {value : Json} (hread : readValue chars = some (value, rest)) :
    readMember readValue (quoted name ++ ':' :: chars) = some ((name, value), rest) := by
  rw [quoted, List.cons_append, List.append_assoc, List.singleton_append, readMember,
    quotedRest?_quoted]
  simp only [hread, Option.map_some, String.ofList_toList]

theorem length_compactChars_pos (document : Json) : 0 < (compactChars document).length := by
  obtain ⟨c, rest, heq, -⟩ := exists_compactChars_eq_cons document
  rw [heq]
  exact Nat.succ_pos _

/-- The text of a document is read as that document, up to where it ends. -/
theorem readDocument_compactChars {document : Json} (hx : Text.EndsNumber x)
    (hdepth : (compactChars document).length ≤ depth) :
    readDocument depth (compactChars document ++ x) = some (document, x) := by
  -- what stands in a document has a shorter text, so that one less is deep enough for it
  induction depth generalizing document x with
  | zero => exact absurd (length_compactChars_pos document) (Nat.not_lt.2 hdepth)
  | succ depth ih =>
    cases document with
    | null => rfl
    | bool value => cases value <;> rfl
    | int n => exact readDocument_int n hx
    | str text => exact readDocument_str text
    | arr items =>
      by_cases hitems : items = []
      · subst hitems
        rfl
      · have hread (item : Json) (hitem : item ∈ items) (x : List Char) (hx : Text.EndsNumber x) :
            readDocument depth (compactChars item ++ x) = some (item, x) := by
          have hlength := length_le_of_mem_commaSeparated (f := compactChars) hitem
          rw [compactChars, compactItems_eq, List.length_cons, List.length_append] at hdepth
          exact ih hx (by omega)
        have hopen := commaSeparated_append_ne_cons
          (fun item _ _ => compactChars_append_ne_cons item) hitems (']' :: x)
        rw [compactChars_arr_append, readDocument_arr hopen,
          readItems_length (by decide) rfl hread hitems rfl]
        rfl
    | obj members =>
      by_cases hmembers : members = []
      · subst hmembers
        rfl
      · have hread (member : String × Json) (hmember : member ∈ members) (x : List Char)
            (hx : Text.EndsNumber x) : readMember (readDocument depth)
              (quoted member.1 ++ ':' :: compactChars member.2 ++ x) = some (member, x) := by
          have hlength := length_le_of_mem_commaSeparated (f := fun member : String × Json =>
            quoted member.1 ++ ':' :: compactChars member.2) hmember
          rw [compactChars, compactMembers_eq, List.length_cons, List.length_append] at hdepth
          rw [List.length_append, List.length_cons] at hlength
          rw [List.append_assoc]
          exact readMember_append (ih hx (by omega))
        have hopen (y : List Char) : commaSeparated (members.map fun member =>
            quoted member.1 ++ ':' :: compactChars member.2) ++ '}' :: x ≠ '}' :: y :=
          commaSeparated_append_ne_cons
            (fun _ _ _ heq => absurd (List.cons.inj heq).1 (by decide)) hmembers _ y
        rw [compactChars_obj_append, readDocument_obj hopen,
          readItems_length (by decide) rfl hread hmembers rfl]
        rfl

/-- Reading the text of a document gives the document. -/
theorem parse?_compact (document : Json) : parse? document.compact = some document := by
  have hread : readDocument (compactChars document).length (compactChars document ++ []) =
      some (document, []) := readDocument_compactChars Text.endsNumber_nil (Nat.le_refl _)
  rw [List.append_nil] at hread
  rw [parse?, compact, String.length_ofList, String.toList_ofList, hread]

end

end BootChain.Json
