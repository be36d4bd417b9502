import BootChain.Proofs.Text.Decimal
import BootChain.Text.Lines
import Mathlib.Data.List.SplitBy

namespace BootChain.Text

/-- A text that stands on one line. -/
def OneLine (text : String) : Prop := ∀ c ∈ text.toList, c ≠ '\n' ∧ c ≠ '\r'

instance {text : String} : Decidable (OneLine text) :=
  List.decidableBAll (fun c => c ≠ '\n' ∧ c ≠ '\r') text.toList

/-- One line with the line feed that ends it. -/
def IsLine (text : String) : Prop := ∃ line, OneLine line ∧ text = line ++ "\n"

/-- A text without its last character, which is the line feed of a line. -/
def lineOf (text : String) : String := String.ofList text.toList.dropLast

/-- A text that leaves no line open. -/
def Closed (text : String) : Prop := ∀ c ∈ text.toList.getLast?, c = '\n'

instance {text : String} : Decidable (Closed text) :=
  Option.decidableForallMem (p := (· = '\n')) text.toList.getLast?

variable {first second line text : String}

@[simp]
theorem oneLine_append : OneLine (first ++ second) ↔ OneLine first ∧ OneLine second := by
  simp only [OneLine, String.toList_append, List.forall_mem_append]

theorem oneLine_join {texts : List String} (htexts : ∀ text ∈ texts, OneLine text) :
    OneLine (String.join texts) := by
  intro c hmem
  rw [String.toList_join, List.mem_flatMap] at hmem
  obtain ⟨text, htext, hc⟩ := hmem
  exact htexts text htext c hc

theorem oneLine_intercalate {separator : String} {texts : List String}
    (hseparator : OneLine separator) (htexts : ∀ text ∈ texts, OneLine text) :
    OneLine (separator.intercalate texts) := by
  induction texts with
  | nil => exact nofun
  | cons text texts ih =>
    obtain ⟨hfirst, hrest⟩ := List.forall_mem_cons.1 htexts
    cases texts with
    | nil => rwa [String.intercalate_singleton]
    | cons next texts =>
      rw [String.intercalate_cons_cons, oneLine_append, oneLine_append]
      exact ⟨⟨hfirst, hseparator⟩, ih hrest⟩

theorem oneLine_toString (n : Nat) : OneLine (toString n) := by
  intro c hmem
  rw [Nat.toString_eq_repr, Nat.toList_repr] at hmem
  have hdigit := isDigit_of_mem_toDigits hmem
  constructor <;> rintro rfl <;> cases hdigit

@[simp]
theorem lineOf_append (line : String) : lineOf (line ++ "\n") = line := by
  rw [lineOf, String.toList_append]
  exact (congrArg String.ofList List.dropLast_concat).trans (String.ofList_toList)

theorem isLine_append (hone : OneLine line) : IsLine (line ++ "\n") := ⟨line, hone, rfl⟩

theorem isLine_append_of_eq (last : String) {ending : String} (heq : ending = last ++ "\n")
    (hone : OneLine (first ++ last)) : IsLine (first ++ ending) :=
  ⟨first ++ last, hone, by rw [heq, String.append_assoc]⟩

theorem lineOf_append_of_eq (last : String) {ending : String} (heq : ending = last ++ "\n") :
    lineOf (first ++ ending) = first ++ last := by
  rw [heq, ← String.append_assoc, lineOf_append]

theorem IsLine.oneLine (hline : IsLine text) : OneLine (lineOf text) := by
  obtain ⟨line, hone, rfl⟩ := hline
  rwa [lineOf_append]

theorem closed_append (hfirst : Closed first) (hsecond : Closed second) :
    Closed (first ++ second) := by
  intro c hmem
  rw [String.toList_append, List.getLast?_append] at hmem
  cases hlast : second.toList.getLast? with
  | none =>
    rw [hlast, Option.none_or] at hmem
    exact hfirst c hmem
  | some d =>
    rw [hlast, Option.some_or] at hmem
    exact hsecond c (hlast ▸ hmem)

theorem closed_append_break (text : String) : Closed (text ++ "\n") := by
  intro c hmem
  rw [String.toList_append, List.getLast?_append] at hmem
  exact (Option.some.inj hmem).symm

theorem IsLine.closed (hline : IsLine text) : Closed text := by
  obtain ⟨line, -, rfl⟩ := hline
  exact closed_append_break line

theorem closed_join {texts : List String} (htexts : ∀ text ∈ texts, Closed text) :
    Closed (String.join texts) := by
  induction texts with
  | nil => exact nofun
  | cons text texts ih =>
    obtain ⟨hfirst, hrest⟩ := List.forall_mem_cons.1 htexts
    rw [String.join_cons]
    exact closed_append hfirst (ih hrest)

/-- What follows a text that leaves no line open starts a line. -/
theorem lines_append (hclosed : Closed first) :
    lines (first ++ second) = lines first ++ lines second := by
  rw [lines, pieces, String.toList_append, List.splitBy_append, List.map_append]
  · rfl
  · intro c hc d _
    rw [hclosed c hc]
    rfl

theorem IsLine.lines_eq (hline : IsLine text) : lines text = [lineOf text] := by
  obtain ⟨line, hone, rfl⟩ := hline
  have hopen : ∀ c ∈ line.toList, (c != '\n') = true := fun c hc => bne_iff_ne.2 (hone c hc).1
  have hchain : (line.toList ++ ['\n']).Pairwise fun c _ => (c != '\n') = true :=
    List.pairwise_append.2 ⟨List.pairwise_of_forall_mem_list fun c hc _ _ => hopen c hc,
      List.pairwise_singleton _ _, fun c hc _ _ => hopen c hc⟩
  have hpieces : pieces (line ++ "\n").toList = [line.toList ++ ['\n']] := by
    rw [pieces, String.toList_append]
    exact List.splitBy_of_isChain (by simp) hchain.isChain
  have hreturn : dropReturn line.toList = line.toList := by
    rw [dropReturn, if_neg]
    intro hlast
    exact (hone '\r' (List.mem_of_getLast? hlast)).2 rfl
  rw [lines, hpieces, List.map_singleton, lineOf_append, List.getLast?_concat, if_pos rfl,
    List.dropLast_concat, hreturn, String.ofList_toList]

/-- Lines that are written one after the other are read back. -/
theorem lines_join {texts : List String} (htexts : ∀ text ∈ texts, IsLine text) :
    lines (String.join texts) = texts.map lineOf := by
  induction texts with
  | nil => rfl
  | cons text texts ih =>
    obtain ⟨hfirst, hrest⟩ := List.forall_mem_cons.1 htexts
    rw [String.join_cons, lines_append hfirst.closed, hfirst.lines_eq, ih hrest]
    rfl

end BootChain.Text
