import BootChain.Json.Reader
import BootChain.Proofs.Json.Structure
import BootChain.Proofs.Text.Decimal
import Mathlib.Tactic.SplitIfs

namespace BootChain.Json

variable {rest other x y : List Char}

/-- The four digits of the escape of a control character denote it. -/
theorem hex4?_control : ∀ n < 0x20,
    hex4? '0' '0' (n / 16).digitChar (n % 16).digitChar = some n := by decide

theorem quotedRest?_plain {c : Char} (hquote : c ≠ '"') (hbackslash : c ≠ '\\')
    (hcontrol : ¬ c.toNat < 0x20) :
    quotedRest? (c :: rest) = (quotedRest? rest).map fun (chars, after) => (c :: chars, after) := by
  have hplain : ¬ (c.toNat < 0x20 ∨ c = '\\') := not_or.2 ⟨hcontrol, hbackslash⟩
  rw [quotedRest?.eq_def]
  split
  next heq => exact absurd (List.cons.inj heq).1 hquote
  next heq => exact absurd (List.cons.inj heq).1 hbackslash
  next heq => exact absurd (List.cons.inj heq).1 hbackslash
  next heq =>
    obtain ⟨rfl, rfl⟩ := List.cons.inj heq
    rw [if_neg hplain]
  next heq => cases heq

/-- Reading an escaped character gives the character. -/
theorem quotedRest?_escapeChar (c : Char) (rest : List Char) :
    quotedRest? (escapeChar c ++ rest) =
      (quotedRest? rest).map fun (chars, after) => (c :: chars, after) := by
  unfold escapeChar
  split_ifs with hquote hbackslash hback htab hline hform hreturn hcontrol
  · subst hquote; rfl
  · subst hbackslash; rfl
  · subst hback; rfl
  · subst htab; rfl
  · subst hline; rfl
  · subst hform; rfl
  · subst hreturn; rfl
  · have hscalar : c.toNat < 0xD800 ∨ 0xE000 ≤ c.toNat := by omega
    simp only [List.cons_append, List.nil_append, quotedRest?, hex4?_control _ hcontrol]
    rw [if_pos hscalar, Char.ofNat_toNat]
  · exact quotedRest?_plain hquote hbackslash hcontrol

theorem quotedRest?_quoted (chars rest : List Char) :
    quotedRest? (chars.flatMap escapeChar ++ '"' :: rest) = some (chars, rest) := by
  induction chars with
  | nil => rfl
  | cons c chars ih => rw [List.flatMap_cons, List.append_assoc, quotedRest?_escapeChar, ih]; rfl

/-- A quoted text tells the text and where it ends. -/
theorem quoted_append_inj {a b : String} (heq : quoted a ++ x = quoted b ++ y) : a = b ∧ x = y := by
  simp only [quoted, List.cons_append, List.append_assoc, List.nil_append, List.cons.injEq,
    true_and] at heq
  have hread := congrArg quotedRest? heq
  rw [quotedRest?_quoted, quotedRest?_quoted, Option.some_inj, Prod.mk.injEq] at hread
  exact ⟨String.toList_inj.1 hread.1, hread.2⟩

theorem quoted_inj {a b : String} (heq : quoted a = quoted b) : a = b :=
  (quoted_append_inj (congrArg (· ++ []) heq)).1

theorem toList_int_natCast (n : Nat) : (toString (n : Int)).toList = Nat.toDigits 10 n :=
  Nat.toList_repr

theorem toList_int_negSucc (n : Nat) :
    (toString (Int.negSucc n)).toList = '-' :: Nat.toDigits 10 (n + 1) := by
  change ("-" ++ (n + 1).repr).toList = _
  rw [String.toList_append, Nat.toList_repr]
  rfl

theorem exists_toDigits_eq_cons (n : Nat) :
    ∃ d digits, Nat.toDigits 10 n = d :: digits ∧ d.isDigit = true := by
  obtain ⟨d, digits, heq⟩ := List.exists_cons_of_ne_nil (Nat.toDigits_ne_nil (b := 10) (n := n))
  exact ⟨d, digits, heq, Text.isDigit_of_mem_toDigits (heq ▸ List.mem_cons_self)⟩

/-- A number tells itself and where it ends. -/
theorem int_append_inj {m n : Int} (hx : Text.EndsNumber x) (hy : Text.EndsNumber y)
    (heq : (toString m).toList ++ x = (toString n).toList ++ y) : m = n ∧ x = y := by
  -- digits alone are never taken for a number with a sign
  have hsign (m n : Nat) (x y : List Char) :
      Nat.toDigits 10 m ++ x ≠ '-' :: Nat.toDigits 10 n ++ y := by
    obtain ⟨d, digits, hdigits, hd⟩ := exists_toDigits_eq_cons m
    intro heq
    rw [hdigits] at heq
    rw [(List.cons.inj heq).1] at hd
    exact absurd hd (by decide)
  cases m with
  | ofNat m =>
    cases n with
    | ofNat n =>
      obtain ⟨rfl, rfl⟩ := Text.toDigits_append_inj hx hy (by
        simpa only [Int.ofNat_eq_natCast, toList_int_natCast] using heq)
      exact ⟨rfl, rfl⟩
    | negSucc n =>
      rw [Int.ofNat_eq_natCast, toList_int_natCast, toList_int_negSucc] at heq
      exact absurd heq (hsign _ _ _ _)
  | negSucc m =>
    cases n with
    | ofNat n =>
      rw [Int.ofNat_eq_natCast, toList_int_natCast, toList_int_negSucc] at heq
      exact absurd heq.symm (hsign _ _ _ _)
    | negSucc n =>
      rw [toList_int_negSucc, toList_int_negSucc, List.cons_append, List.cons_append] at heq
      obtain ⟨hnat, rfl⟩ := Text.toDigits_append_inj hx hy (List.cons.inj heq).2
      exact ⟨congrArg Int.negSucc (Nat.succ.inj hnat), rfl⟩

/-- The kind of document that a text starting with `c` is of. -/
def kindOf (c : Char) : Option Nat :=
  if c = 'n' then some 0
  else if c = 't' ∨ c = 'f' then some 1
  else if c = '-' ∨ c.isDigit then some 2
  else if c = '"' then some 3
  else if c = '[' then some 4
  else if c = '{' then some 5
  else none

/-- A number for each kind of document, which its first character tells. -/
def kind : Json → Nat
  | null => 0
  | bool _ => 1
  | int _ => 2
  | str _ => 3
  | arr _ => 4
  | obj _ => 5

theorem kindOf_of_isDigit {c : Char} (hc : c.isDigit = true) : kindOf c = some 2 := by
  have hne (d : Char) (hd : d.isDigit = false) : c ≠ d := by
    rintro rfl
    rw [hd] at hc
    exact absurd hc (by decide)
  rw [kindOf, if_neg (hne _ rfl), if_neg (not_or.2 ⟨hne _ rfl, hne _ rfl⟩), if_pos (.inr hc)]

theorem exists_compactChars_eq_cons (document : Json) :
    ∃ c rest, compactChars document = c :: rest ∧ kindOf c = some document.kind := by
  cases document with
  | null => exact ⟨_, _, rfl, rfl⟩
  | bool value => cases value <;> exact ⟨_, _, rfl, rfl⟩
  | int value =>
    cases value with
    | ofNat n =>
      obtain ⟨d, digits, hdigits, hd⟩ := exists_toDigits_eq_cons n
      exact ⟨d, digits, (toList_int_natCast n).trans hdigits, kindOf_of_isDigit hd⟩
    | negSucc n => exact ⟨_, _, toList_int_negSucc n, rfl⟩
  | str text => exact ⟨_, _, rfl, rfl⟩
  | arr items => exact ⟨_, _, by rw [compactChars], rfl⟩
  | obj members => exact ⟨_, _, by rw [compactChars], rfl⟩

/-- Two documents whose texts agree from the first character are of one kind. -/
theorem kind_eq_of_append_eq {a b : Json} (heq : compactChars a ++ x = compactChars b ++ y) :
    a.kind = b.kind := by
  obtain ⟨c, _, ha, hkind⟩ := exists_compactChars_eq_cons a
  obtain ⟨d, _, hb, hother⟩ := exists_compactChars_eq_cons b
  rw [ha, hb, List.cons_append, List.cons_append] at heq
  rw [(List.cons.inj heq).1, hother] at hkind
  exact (Option.some_inj.1 hkind).symm

section

variable {α : Type} {f : α → List Char} {close : Char} {items others : List α}

theorem commaSeparated_singleton (piece : List Char) : commaSeparated [piece] = piece :=
  List.intercalate_singleton

theorem commaSeparated_cons_cons (piece next : List Char) (pieces : List (List Char)) :
    commaSeparated (piece :: next :: pieces) = piece ++ ',' :: commaSeparated (next :: pieces) := by
  rw [commaSeparated, List.intercalate_cons_cons, List.append_assoc]
  rfl

/-- After one more comma, each of the joined pieces comes after a comma. -/
theorem cons_commaSeparated {pieces : List (List Char)} (hne : pieces ≠ []) :
    ',' :: commaSeparated pieces = pieces.flatMap (',' :: ·) := by
  induction pieces with
  | nil => exact absurd rfl hne
  | cons piece rest ih =>
    cases rest with
    | nil => rw [commaSeparated_singleton, List.flatMap_singleton]
    | cons next rest =>
      rw [commaSeparated_cons_cons, List.flatMap_cons, ← ih (List.cons_ne_nil _ _)]
      rfl

theorem endsNumber_flatMap_comma (hdigit : close.isDigit = false) :
    Text.EndsNumber (items.flatMap (',' :: f ·) ++ close :: x) := by
  cases items with
  | nil => exact Text.endsNumber_cons hdigit
  | cons => exact Text.endsNumber_cons rfl

theorem flatMap_comma_append_inj (hcomma : close ≠ ',') (hdigit : close.isDigit = false)
    (hinj : ∀ a ∈ items, ∀ b x y, Text.EndsNumber x → Text.EndsNumber y →
      f a ++ x = f b ++ y → a = b ∧ x = y)
    (heq : items.flatMap (',' :: f ·) ++ close :: x = others.flatMap (',' :: f ·) ++ close :: y) :
    items = others ∧ x = y := by
  induction items generalizing others with
  | nil =>
    cases others with
    | nil => exact ⟨rfl, (List.cons.inj heq).2⟩
    | cons => exact absurd (List.cons.inj heq).1 hcomma
  | cons item items ih =>
    cases others with
    | nil => exact absurd (List.cons.inj heq).1.symm hcomma
    | cons first others =>
      rw [List.flatMap_cons, List.flatMap_cons, List.append_assoc, List.append_assoc,
        List.cons_append, List.cons_append] at heq
      obtain ⟨rfl, hrest⟩ := hinj item List.mem_cons_self first _ _
        (endsNumber_flatMap_comma hdigit) (endsNumber_flatMap_comma hdigit) (List.cons.inj heq).2
      obtain ⟨rfl, rfl⟩ := ih (fun a ha => hinj a (List.mem_cons_of_mem _ ha)) hrest
      exact ⟨rfl, rfl⟩

/-- Where no piece starts with a bracket, no list of them does. -/
theorem commaSeparated_append_ne_cons (hopen : ∀ a x y, f a ++ x ≠ close :: y) (hne : items ≠ [])
    (x y : List Char) : commaSeparated (items.map f) ++ x ≠ close :: y := by
  cases items with
  | nil => exact absurd rfl hne
  | cons a rest =>
    cases rest with
    | nil =>
      rw [List.map_singleton, commaSeparated_singleton]
      exact hopen a x y
    | cons next rest =>
      rw [List.map_cons, List.map_cons, commaSeparated_cons_cons, List.append_assoc]
      exact hopen _ _ _

/-- Pieces that tell where they end tell the list that they are joined from. -/
theorem commaSeparated_append_inj (hcomma : close ≠ ',') (hdigit : close.isDigit = false)
    (hopen : ∀ a x y, f a ++ x ≠ close :: y)
    (hinj : ∀ a ∈ items, ∀ b x y, Text.EndsNumber x → Text.EndsNumber y →
      f a ++ x = f b ++ y → a = b ∧ x = y)
    (heq : commaSeparated (items.map f) ++ close :: x =
      commaSeparated (others.map f) ++ close :: y) : items = others ∧ x = y := by
  cases items with
  | nil =>
    cases others with
    | nil => exact ⟨rfl, (List.cons.inj heq).2⟩
    | cons first others =>
      exact absurd heq.symm (commaSeparated_append_ne_cons hopen (List.cons_ne_nil _ _) _ _)
  | cons item items =>
    cases others with
    | nil => exact absurd heq (commaSeparated_append_ne_cons hopen (List.cons_ne_nil _ _) _ _)
    | cons first others =>
      have hcons := congrArg (',' :: ·) heq
      simp only [← List.cons_append] at hcons
      rw [cons_commaSeparated (by simp), cons_commaSeparated (by simp), List.flatMap_map,
        List.flatMap_map] at hcons
      exact flatMap_comma_append_inj hcomma hdigit hinj hcons

end

/-- No text of a document starts with a closing bracket. -/
theorem compactChars_append_ne_cons (document : Json) : compactChars document ++ x ≠ ']' :: y := by
  obtain ⟨c, rest, heq, hkind⟩ := exists_compactChars_eq_cons document
  rw [heq]
  intro hclose
  rw [(List.cons.inj hclose).1] at hkind
  cases hkind

theorem compactChars_arr_append (items : List Json) : compactChars (arr items) ++ x =
    '[' :: (commaSeparated (items.map compactChars) ++ ']' :: x) := by
  rw [compactChars, compactItems_eq, List.cons_append, List.append_assoc]
  rfl

theorem compactChars_obj_append (members : List (String × Json)) :
    compactChars (obj members) ++ x = '{' :: (commaSeparated (members.map fun member =>
      quoted member.1 ++ ':' :: compactChars member.2) ++ '}' :: x) := by
  rw [compactChars, compactMembers_eq, List.cons_append, List.append_assoc]
  rfl

/-- The text of a document tells the document and where it ends. -/
theorem compactChars_append_inj {a b : Json} (hx : Text.EndsNumber x) (hy : Text.EndsNumber y)
    (heq : compactChars a ++ x = compactChars b ++ y) : a = b ∧ x = y := by
  have hkind := kind_eq_of_append_eq heq
  induction a using inductionOn generalizing b x y with
  | null =>
    cases b with
    | null => exact ⟨rfl, List.append_cancel_left heq⟩
    | _ => cases hkind
  | bool value =>
    cases b with
    | bool other =>
      cases value <;> cases other <;> simp_all [compactChars]
    | _ => cases hkind
  | int value =>
    cases b with
    | int other =>
      obtain ⟨rfl, hrest⟩ := int_append_inj hx hy heq
      exact ⟨rfl, hrest⟩
    | _ => cases hkind
  | str text =>
    cases b with
    | str other =>
      obtain ⟨rfl, hrest⟩ := quoted_append_inj heq
      exact ⟨rfl, hrest⟩
    | _ => cases hkind
  | arr items ih =>
    cases b with
    | arr others =>
      rw [compactChars_arr_append, compactChars_arr_append] at heq
      obtain ⟨rfl, hrest⟩ := commaSeparated_append_inj (by decide) rfl
        (fun item _ _ => compactChars_append_ne_cons item)
        (fun item hitem other x y hx hy heq =>
          ih item hitem hx hy heq (kind_eq_of_append_eq heq)) (List.cons.inj heq).2
      exact ⟨rfl, hrest⟩
    | _ => cases hkind
  | obj members ih =>
    cases b with
    | obj others =>
      rw [compactChars_obj_append, compactChars_obj_append] at heq
      obtain ⟨rfl, hrest⟩ := commaSeparated_append_inj (by decide) rfl
        (fun member x y heq => absurd (List.cons.inj heq).1 (by decide))
        (fun member hmember other x y hx hy heq => by
          rw [List.append_assoc, List.append_assoc] at heq
          obtain ⟨hname, hrest⟩ := quoted_append_inj heq
          obtain ⟨hvalue, rfl⟩ := ih member hmember hx hy (List.cons.inj hrest).2
            (kind_eq_of_append_eq (List.cons.inj hrest).2)
          exact ⟨Prod.ext hname hvalue, rfl⟩) (List.cons.inj heq).2
      exact ⟨rfl, hrest⟩
    | _ => cases hkind

/-- Two documents of one text are one document. -/
theorem compact_inj {a b : Json} (heq : a.compact = b.compact) : a = b := by
  have hchars : compactChars a ++ [] = compactChars b ++ [] := by
    rw [List.append_nil, List.append_nil]
    exact String.ofList_inj.1 heq
  exact (compactChars_append_inj Text.endsNumber_nil Text.endsNumber_nil hchars).1

theorem compact_eq_canonical_iff {document other : Json} :
    other.compact = document.canonical ↔ other = document.sorted :=
  ⟨compact_inj, congrArg compact⟩

theorem forall_mem_commaSeparated {p : Char → Prop} {pieces : List (List Char)} (hcomma : p ',')
    (hpieces : ∀ piece ∈ pieces, ∀ c ∈ piece, p c) : ∀ c ∈ commaSeparated pieces, p c := by
  cases pieces with
  | nil => nofun
  | cons first rest =>
    have hcons : ∀ c ∈ ',' :: commaSeparated (first :: rest), p c := by
      rw [cons_commaSeparated (List.cons_ne_nil _ _)]
      intro c hmem
      obtain ⟨piece, hpiece, hc⟩ := List.mem_flatMap.1 hmem
      obtain rfl | hc := List.mem_cons.1 hc
      · exact hcomma
      · exact hpieces piece hpiece c hc
    exact (List.forall_mem_cons.1 hcons).2

theorem le_toNat_of_all {chars : List Char} (hall : chars.all (0x20 ≤ ·.toNat) = true) :
    ∀ c ∈ chars, 0x20 ≤ c.toNat := by
  simpa using hall

/-- The escape of a control character holds none. -/
theorem all_escape : ∀ n < 0x20,
    ['\\', 'u', '0', '0', (n / 16).digitChar, (n % 16).digitChar].all (0x20 ≤ ·.toNat) = true := by
  decide

theorem le_toNat_of_mem_escapeChar (c : Char) : ∀ d ∈ escapeChar c, 0x20 ≤ d.toNat := by
  unfold escapeChar
  split_ifs with hquote hbackslash hback htab hline hform hreturn hcontrol
  · exact le_toNat_of_all rfl
  · exact le_toNat_of_all rfl
  · exact le_toNat_of_all rfl
  · exact le_toNat_of_all rfl
  · exact le_toNat_of_all rfl
  · exact le_toNat_of_all rfl
  · exact le_toNat_of_all rfl
  · exact le_toNat_of_all (all_escape _ hcontrol)
  · exact List.forall_mem_singleton.2 (Nat.not_lt.1 hcontrol)

/-- What stands between two characters and holds no control still holds none with them. -/
theorem le_toNat_of_mem_between {first last : Char} {chars : List Char}
    (hends : [first, last].all (0x20 ≤ ·.toNat) = true) (hchars : ∀ c ∈ chars, 0x20 ≤ c.toNat) :
    ∀ c ∈ first :: (chars ++ [last]), 0x20 ≤ c.toNat := by
  have hends := le_toNat_of_all hends
  refine List.forall_mem_cons.2 ⟨hends first (by simp), List.forall_mem_append.2 ⟨hchars, ?_⟩⟩
  exact List.forall_mem_singleton.2 (hends last (by simp))

theorem le_toNat_of_mem_quoted (text : String) : ∀ c ∈ quoted text, 0x20 ≤ c.toNat := by
  refine le_toNat_of_mem_between rfl fun c hmem => ?_
  obtain ⟨escaped, -, hc⟩ := List.mem_flatMap.1 hmem
  exact le_toNat_of_mem_escapeChar escaped c hc

theorem le_toNat_of_isDigit {c : Char} (hdigit : c.isDigit = true) : 0x20 ≤ c.toNat := by
  obtain ⟨hlow, -⟩ := Char.isDigit_iff_toNat.1 hdigit
  exact Nat.le_trans (by decide) hlow

/-- No control character stands in the text of a document, so that it has no end of a line. -/
theorem le_toNat_of_mem_compactChars (document : Json) :
    ∀ c ∈ compactChars document, 0x20 ≤ c.toNat := by
  induction document using inductionOn with
  | null => exact le_toNat_of_all rfl
  | bool value => cases value <;> exact le_toNat_of_all rfl
  | int n =>
    rw [compactChars]
    cases n with
    | ofNat n =>
      rw [Int.ofNat_eq_natCast, toList_int_natCast]
      exact fun c hmem => le_toNat_of_isDigit (Text.isDigit_of_mem_toDigits hmem)
    | negSucc n =>
      rw [toList_int_negSucc, List.forall_mem_cons]
      exact ⟨by decide, fun c hmem => le_toNat_of_isDigit (Text.isDigit_of_mem_toDigits hmem)⟩
  | str text => exact le_toNat_of_mem_quoted text
  | arr items ih =>
    rw [compactChars, compactItems_eq]
    exact le_toNat_of_mem_between rfl
      (forall_mem_commaSeparated (by decide) (List.forall_mem_map.2 ih))
  | obj members ih =>
    rw [compactChars, compactMembers_eq]
    refine le_toNat_of_mem_between rfl (forall_mem_commaSeparated (by decide)
      (List.forall_mem_map.2 fun member hmember => ?_))
    exact List.forall_mem_append.2 ⟨le_toNat_of_mem_quoted member.1,
      List.forall_mem_cons.2 ⟨by decide, ih member hmember⟩⟩

end BootChain.Json
