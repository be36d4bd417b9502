import BootChain.Proofs.Path
import BootChain.Proofs.Template.Spelling
import Mathlib.Data.List.Basic
import Mathlib.Logic.Function.Basic

namespace BootChain.Template

variable {f g : Placeholder → List Char} {spelling : Spelling} {p q : Placeholder}
  {word : String}

namespace Spelling

theorem fill_congr (heq : ∀ p, .hole p ∈ spelling.pieces → f p = g p) :
    spelling.fill f = spelling.fill g := by
  have hpieces : spelling.pieces.flatMap (Piece.fill f) =
      spelling.pieces.flatMap (Piece.fill g) := by
    refine List.flatMap_congr fun piece hmem => ?_
    cases piece with
    | plain c => rfl
    | hole p => exact heq p hmem
  rw [fill, fill, hpieces]

/-- One pass fills in one placeholder, if no other text in the word can begin an occurrence of it. -/
theorem replaceAll_fill (hself : f q = q.chars)
    (hfree : ∀ p, .hole p ∈ spelling.pieces → p ≠ q → Text.FreeOf q.chars (f p))
    (replacement : List Char) :
    Text.replaceAll q.chars replacement (spelling.fill f) =
      spelling.fill (Function.update f q replacement) := by
  obtain ⟨pieces, unclosed?, hplain, hclosing⟩ := spelling
  simp only [fill] at hfree ⊢
  induction pieces with
  | nil =>
    refine Text.replaceAll_of_not_infix fun hoccurs => ?_
    have hclosed := hoccurs.subset q.closing_mem_chars
    cases unclosed? with
    | none => simp at hclosed
    | some rest =>
      have habsent := hclosing rest rfl
      simp [habsent] at hclosed
  | cons piece pieces ih =>
    have hrest := ih (fun c hmem => hplain c (List.mem_cons_of_mem _ hmem))
      (fun p hmem => hfree p (List.mem_cons_of_mem _ hmem))
    rw [List.flatMap_cons, List.flatMap_cons, List.append_assoc, List.append_assoc, ← hrest]
    cases piece with
    | plain c =>
      have habsent : '{' ∉ [c] := by simpa using (hplain c List.mem_cons_self).symm
      exact Text.replaceAll_append_of_freeOf (Text.freeOf_of_notMem habsent) _
    | hole p =>
      by_cases heq : p = q
      · subst heq
        rw [Piece.fill, Piece.fill, hself, Function.update_self,
          Text.replaceAll_needle_append p.chars_ne_nil]
      · rw [Piece.fill, Piece.fill, Function.update_of_ne heq]
        exact Text.replaceAll_append_of_freeOf (hfree p List.mem_cons_self heq) _

/-- In no text that stands in a word can an occurrence begin of a placeholder that is replaced after
    that of the text. A text without an opening brace is of this kind. -/
def Unmixed (spelling : Spelling) (text : Placeholder → String) : Prop :=
  ∀ p q, .hole p ∈ spelling.pieces → [p, q].Sublist Placeholder.all →
    Text.FreeOf q.chars (text p).toList

theorem unmixed_of_notMem {text : Placeholder → String} (habsent : ∀ p, '{' ∉ (text p).toList) :
    spelling.Unmixed text :=
  fun p _ _ _ => Text.freeOf_of_notMem (habsent p)

/-- The passes one after the other come to one substitution for all placeholders at once, where no
    text gets in the way of a later pass. -/
theorem foldl_replaceAll {text : Placeholder → String} (hunmixed : spelling.Unmixed text) :
    Placeholder.all.foldl (fun chars p => Text.replaceAll p.chars (text p).toList chars)
      spelling.chars = spelling.fill fun p => (text p).toList := by
  -- each pass leaves the placeholders before it filled in, and those after it as they are written
  simp only [Placeholder.all, List.foldl_cons, List.foldl_nil, chars]
  rw [replaceAll_fill rfl, replaceAll_fill, replaceAll_fill]
  · refine fill_congr fun p _ => ?_
    cases p <;> rfl
  · rfl
  · intro p hmem hne
    cases p with
    | source => exact hunmixed _ _ hmem (by decide)
    | object => exact hunmixed _ _ hmem (by decide)
    | executable => exact absurd rfl hne
  · rfl
  · intro p hmem hne
    cases p with
    | source => exact hunmixed _ _ hmem (by decide)
    | object => exact absurd rfl hne
    | executable => exact Placeholder.freeOf_chars hne
  · exact fun p _ hne => Placeholder.freeOf_chars hne

end Spelling

theorem eq_text_iff : word = p.text ↔ p.chars = word.toList := by
  rw [Placeholder.text, ← String.toList_inj, String.toList_ofList, eq_comm]

/-- A word that is one placeholder stands for the octets of its path. -/
theorem renderWord_text (paths : TemplatePaths) (p : Placeholder) :
    renderWord paths p.text = (paths.of p).bytes := by
  cases p <;> rfl

/-- Any other word has its placeholders filled in, as long as no text gets in the way. -/
theorem renderWord_of_ne {paths : TemplatePaths} {text : Placeholder → String}
    (hne : ∀ p : Placeholder, word ≠ p.text) (hspells : spelling.chars = word.toList)
    (htext : ∀ p, .hole p ∈ spelling.pieces → (paths.of p).text? = some (text p))
    (hunmixed : spelling.Unmixed text) :
    renderWord paths word =
      Utf8.encode (String.ofList (spelling.fill fun p => (text p).toList)) := by
  have hnone : (Placeholder.all.find? fun p => p.chars = word.toList) = none := by
    rw [List.find?_eq_none]
    intro p _ hchars
    exact hne p (eq_text_iff.2 (of_decide_eq_true hchars))
  have hshown : ∀ p, .hole p ∈ spelling.pieces → (paths.of p).shown = text p := by
    intro p hmem
    rw [Path.shown, ← Utf8.encode_of_text? (htext p hmem), Utf8.lossy_encode]
  have hmeets : spelling.Unmixed fun p => (paths.of p).shown := by
    intro p q hmem hlater
    have hfree := hunmixed p q hmem hlater
    rwa [← hshown p hmem] at hfree
  have hfill : (spelling.fill fun p => (paths.of p).shown.toList) =
      spelling.fill fun p => (text p).toList :=
    Spelling.fill_congr fun p hmem => congrArg String.toList (hshown p hmem)
  rw [renderWord, hnone]
  simp only [← hspells]
  rw [Spelling.foldl_replaceAll hmeets, hfill]

/-- What a template renders to, once it is accepted: an argument for each word. A word that is one
    placeholder becomes the octets of its path. In any other word all placeholders are replaced at
    once, and everything else stays, unless in the text of a path begins an occurrence of a
    placeholder that is replaced after it. -/
theorem render_accepted {role : TemplateRole} {words : List String} {template : Template}
    (haccepted : ofWords role words = .ok template) (paths : TemplatePaths) :
    template.render paths = words.map (renderWord paths) ∧
      ∀ word ∈ words, WellFormed word.toList ∧
        (∀ p : Placeholder, word = p.text → renderWord paths word = (paths.of p).bytes) ∧
        ((∀ p : Placeholder, word ≠ p.text) →
          ∀ (spelling : Spelling) (text : Placeholder → String), spelling.chars = word.toList →
            (∀ p, .hole p ∈ spelling.pieces → (paths.of p).text? = some (text p)) →
            spelling.Unmixed text →
              renderWord paths word =
                Utf8.encode (String.ofList (spelling.fill fun p => (text p).toList))) := by
  obtain ⟨rfl, hformed, -⟩ := ofWords_eq_ok_iff.1 haccepted
  refine ⟨rfl, fun word hword => ⟨hformed word hword, ?_, ?_⟩⟩
  · rintro p rfl
    exact renderWord_text paths p
  · intro hne spelling text hspells htext hunmixed
    exact renderWord_of_ne hne hspells htext hunmixed

/-- The word `-I{source}` and, in it, whatever stands for the source. -/
def includeSource : Spelling where
  pieces := [.plain '-', .plain 'I', .hole .source]
  unclosed? := none
  ne_opening c hmem := by
    simp only [List.mem_cons, Piece.plain.injEq, reduceCtorEq, List.not_mem_nil, or_false] at hmem
    obtain rfl | rfl := hmem <;> decide
  closing_notMem := nofun

/-- Paths of which the source has a brace in its name. -/
def bracedPaths : TemplatePaths where
  source := .ofText "é\x7bo.c"
  object := .ofText "a.o"
  executable := .ofText "a"

/-- A brace in the name of a source does no harm where no placeholder comes of it. -/
theorem render_accepted_braced :
    ofWords .compile ["-I{source}", "{object}"] = .ok ⟨["-I{source}", "{object}"]⟩ ∧
      renderWord bracedPaths "-I{source}" = Utf8.encode "-Ié\x7bo.c" := by
  have haccepted : ofWords .compile ["-I{source}", "{object}"] =
      .ok ⟨["-I{source}", "{object}"]⟩ := by decide +kernel
  have hfree : ∀ q : Placeholder, Text.FreeOf q.chars "é\x7bo.c".toList := by
    intro q
    cases q <;> simp [Placeholder.chars, Placeholder.name, Text.freeOf_cons_iff, Text.freeOf_nil]
  have hsource : ∀ p, .hole p ∈ includeSource.pieces → p = .source := by simp [includeSource]
  have hword := ((render_accepted haccepted bracedPaths).2 _ List.mem_cons_self).2.2
    (fun p => by cases p <;> decide +kernel) includeSource (fun _ => "é\x7bo.c") (by decide +kernel)
  refine ⟨haccepted, hword (fun p hmem => ?_) fun p q _ _ => hfree q⟩
  rw [hsource p hmem]
  exact Utf8.text?_encode _

/-- The name of a source that reads like a placeholder is itself replaced. -/
theorem renderWord_rewrites_path :
    let paths : TemplatePaths := ⟨.ofText "{object}.c", .ofText "a.o", .ofText "a"⟩
    ofWords .compile ["-I{source}", "{object}"] = .ok ⟨["-I{source}", "{object}"]⟩ ∧
      includeSource.chars = "-I{source}".toList ∧
      (includeSource.fill fun p => (paths.of p).shown.toList) = "-I{object}.c".toList ∧
      renderWord paths "-I{source}" = Utf8.encode "-Ia.o.c" := by
  refine ⟨?_, ?_, ?_, ?_⟩ <;> decide +kernel

section Reading

variable {role : TemplateRole} {words : List String} {paths : TemplatePaths}
  {text : Placeholder → String}

/-- Where the texts that are filled in have no opening brace, no placeholder is left: the only
    brace that can stand in the word is one that is never closed. -/
theorem Spelling.not_occurs_fill (habsent : ∀ p, '{' ∉ (text p).toList) (p : Placeholder) :
    ¬ p.chars <:+: spelling.fill fun p => (text p).toList := by
  obtain ⟨pieces, unclosed?, hplain, hclosing⟩ := spelling
  intro hoccurs
  have hpieces : '{' ∉ pieces.flatMap (Piece.fill fun p => (text p).toList) := by
    intro hmem
    obtain ⟨piece, hpiece, hopening⟩ := List.mem_flatMap.1 hmem
    cases piece with
    | plain c => exact hplain c hpiece (List.mem_singleton.1 hopening).symm
    | hole q => exact habsent q hopening
  have hclosed := (Text.infix_of_freeOf (Text.freeOf_of_notMem hpieces) hoccurs).subset
    p.closing_mem_chars
  cases unclosed? with
  | none => simp at hclosed
  | some rest =>
    have hnot := hclosing rest rfl
    simp [hnot] at hclosed

/-- An argument is a text that no placeholder occurs in. -/
def Settled (argument : Bytes) : Prop :=
  ∃ text : String, Utf8.text? argument = some text ∧ ∀ p : Placeholder, ¬ p.chars <:+: text.toList

theorem settled_renderWord {word : String} (hformed : WellFormed word.toList)
    (htext : ∀ p, (paths.of p).text? = some (text p)) (habsent : ∀ p, '{' ∉ (text p).toList) :
    Settled (renderWord paths word) := by
  by_cases hwhole : ∃ p : Placeholder, word = p.text
  · obtain ⟨p, rfl⟩ := hwhole
    rw [renderWord_text]
    refine ⟨text p, htext p, fun q hoccurs => habsent p (hoccurs.subset ?_)⟩
    exact List.mem_cons_self
  · obtain ⟨spelling, hspells⟩ := hformed
    rw [renderWord_of_ne (not_exists.1 hwhole) hspells (fun p _ => htext p)
      (Spelling.unmixed_of_notMem habsent)]
    refine ⟨_, Utf8.text?_encode _, fun p => ?_⟩
    rw [String.toList_ofList]
    exact Spelling.not_occurs_fill habsent p

/-- What reading some words as a template for a role gives. -/
structure Reads (role : TemplateRole) (words : List String)
    (result : Except TemplateError Template) : Prop where
  ok_iff : ∀ template, result = .ok template ↔ ⟨words⟩ = template ∧
    (∀ word ∈ words, WellFormed word.toList) ∧ ∀ p ∈ role.required, Named words p
  /-- A word that is not well formed is reported before a placeholder that is missing. -/
  unknown_iff : ∀ other word, result = .error (.unknown other word) ↔ role = other ∧
    IsFirst (fun word => ¬ WellFormed word.toList) words word
  missing_iff : ∀ other p, result = .error (.missing other p) ↔ role = other ∧
    (∀ word ∈ words, WellFormed word.toList) ∧ IsFirst (fun p => ¬ Named words p) role.required p
  /-- With paths that are text without an opening brace, no argument keeps a placeholder. -/
  settled : ∀ template, result = .ok template →
    ∀ (paths : TemplatePaths) (text : Placeholder → String),
      (∀ p, (paths.of p).text? = some (text p)) → (∀ p, '{' ∉ (text p).toList) →
        ∀ argument ∈ template.render paths, Settled argument

/-- Reading accepts just the words of the grammar that name what the role requires, reports the
    first thing that is wrong, and what it accepts leaves no placeholder behind. -/
theorem reads_ofWords (role : TemplateRole) (words : List String) :
    Reads role words (ofWords role words) where
  ok_iff _ := ofWords_eq_ok_iff
  unknown_iff _ _ := ofWords_eq_unknown_iff
  missing_iff _ _ := ofWords_eq_missing_iff
  settled template haccepted paths text htext habsent argument hargument := by
    obtain ⟨rfl, hformed, -⟩ := ofWords_eq_ok_iff.1 haccepted
    obtain ⟨word, hword, rfl⟩ := List.mem_map.1 hargument
    exact settled_renderWord (hformed word hword) htext habsent

end Reading

end BootChain.Template
