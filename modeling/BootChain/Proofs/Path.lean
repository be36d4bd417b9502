import BootChain.Path
import BootChain.Proofs.Text.Utf8.RoundTrip

namespace BootChain.Path

/-- A name that one step of a path can have: no slash and no NUL is in it, and it is neither empty
    nor a dot or two. -/
structure IsName (name : Bytes) : Prop where
  slash_notMem : slash ∉ name
  nul_notMem : 0 ∉ name
  ne_nil : name ≠ []
  ne_dot : name ≠ [dot]
  ne_dots : name ≠ [dot, dot]

instance : DecidablePred IsName := fun name =>
  decidable_of_iff (slash ∉ name ∧ 0 ∉ name ∧ name ≠ [] ∧ name ≠ [dot] ∧ name ≠ [dot, dot])
    ⟨fun ⟨hslash, hnul, hne, hdot, hdots⟩ => ⟨hslash, hnul, hne, hdot, hdots⟩,
      fun ⟨hslash, hnul, hne, hdot, hdots⟩ => ⟨hslash, hnul, hne, hdot, hdots⟩⟩

/-- A piece of a path that leads one step further. A NUL may be in it, though no file is there
    then. -/
structure IsStep (piece : Bytes) : Prop where
  slash_notMem : slash ∉ piece
  ne_nil : piece ≠ []
  ne_dot : piece ≠ [dot]
  ne_dots : piece ≠ [dot, dot]

instance : DecidablePred IsStep := fun piece =>
  decidable_of_iff (slash ∉ piece ∧ piece ≠ [] ∧ piece ≠ [dot] ∧ piece ≠ [dot, dot])
    ⟨fun ⟨hslash, hne, hdot, hdots⟩ => ⟨hslash, hne, hdot, hdots⟩,
      fun ⟨hslash, hne, hdot, hdots⟩ => ⟨hslash, hne, hdot, hdots⟩⟩

theorem IsName.isStep {name : Bytes} (hname : IsName name) : IsStep name :=
  ⟨hname.slash_notMem, hname.ne_nil, hname.ne_dot, hname.ne_dots⟩

theorem slash_notMem_encode {text : String} (hslash : '/' ∉ text.toList) :
    slash ∉ Utf8.encode text :=
  Utf8.notMem_encode (by decide) rfl hslash

theorem dot_notMem_encode {text : String} (hdot : '.' ∉ text.toList) : dot ∉ Utf8.encode text :=
  Utf8.notMem_encode (by decide) rfl hdot

theorem encode_ne_nil {text : String} (hne : text.toList ≠ []) : Utf8.encode text ≠ [] := by
  intro hnil
  have hempty : text = "" := Utf8.encode_inj.1 (hnil.trans (by decide : [] = Utf8.encode ""))
  exact hne (congrArg String.toList hempty)

theorem isStep_encode {text : String} (hslash : '/' ∉ text.toList) (hne : text.toList ≠ [])
    (hdot : text.toList ≠ ['.']) (hdots : text.toList ≠ ['.', '.']) :
    IsStep (Utf8.encode text) := by
  refine ⟨slash_notMem_encode hslash, encode_ne_nil hne, fun heq => hdot ?_, fun heq => hdots ?_⟩
  · have hsame : text = "." := Utf8.encode_inj.1 (heq.trans (by decide : [dot] = Utf8.encode "."))
    exact congrArg String.toList hsame
  · have hsame : text = ".." :=
      Utf8.encode_inj.1 (heq.trans (by decide : [dot, dot] = Utf8.encode ".."))
    exact congrArg String.toList hsame

/-- A path that is text is shown as it is. -/
theorem ofText_shown {path : Path} (htext : path.text?.isSome = true) :
    .ofText path.shown = path := by
  obtain ⟨text, hsome⟩ := Option.isSome_iff_exists.1 htext
  have hbytes : Utf8.encode text = path.bytes := Utf8.encode_of_text? hsome
  rw [ofText, shown, ← hbytes, Utf8.lossy_encode, hbytes]

theorem text?_eq_shown {path : Path} (htext : path.text?.isSome = true) :
    path.text? = some path.shown := by
  have hencode : (ofText path.shown).text? = some path.shown := Utf8.text?_encode path.shown
  rwa [ofText_shown htext] at hencode

theorem segments_cons (b : UInt8) (rest : Bytes) : segments (b :: rest) =
    if b = slash then [] :: segments rest
    else match segments rest with
      | [] => [[b]]
      | piece :: pieces => (b :: piece) :: pieces := rfl

theorem segments_ne_nil (bytes : Bytes) : segments bytes ≠ [] := by
  cases bytes with
  | nil => exact List.cons_ne_nil _ _
  | cons b rest =>
    rw [segments_cons]
    split
    · exact List.cons_ne_nil _ _
    · split <;> exact List.cons_ne_nil _ _

/-- A slash divides the pieces before it from those behind it. -/
theorem segments_append_slash (before after : Bytes) :
    segments (before ++ slash :: after) = segments before ++ segments after := by
  induction before with
  | nil => simp [segments]
  | cons b before ih =>
    rw [List.cons_append, segments_cons, segments_cons, ih]
    split
    · rfl
    · cases hpieces : segments before with
      | nil => exact absurd hpieces (segments_ne_nil before)
      | cons piece pieces => rfl

theorem segments_of_slash_notMem {bytes : Bytes} (hslash : slash ∉ bytes) :
    segments bytes = [bytes] := by
  induction bytes with
  | nil => rfl
  | cons b rest ih =>
    rw [List.mem_cons, not_or] at hslash
    rw [segments_cons, if_neg (Ne.symm hslash.1), ih hslash.2]

theorem not_isAbsolute_of_segments {bytes : Bytes} (hpieces : [] ∉ segments bytes) :
    (⟨bytes⟩ : Path).isAbsolute = false := by
  cases bytes with
  | nil => rfl
  | cons b rest =>
    have hne : b ≠ slash := by
      rintro rfl
      exact hpieces (by rw [segments_cons, if_pos rfl]; exact List.mem_cons_self)
    simp [isAbsolute, hne]

section

variable {base : Path} {name : Bytes}

theorem not_isAbsolute_of_slash_notMem (hslash : slash ∉ name) :
    (⟨name⟩ : Path).isAbsolute = false := by
  rw [isAbsolute, decide_eq_false_iff_not]
  exact fun hhead => hslash (List.mem_of_head? hhead)

theorem not_isAbsolute_of_isName (hname : IsName name) : (⟨name⟩ : Path).isAbsolute = false :=
  not_isAbsolute_of_slash_notMem hname.slash_notMem

theorem join_of_nil (hslash : slash ∉ name) (hbase : base.bytes = []) :
    base.join ⟨name⟩ = ⟨name⟩ := by
  simp [join, not_isAbsolute_of_slash_notMem hslash, hbase]

/-- The pieces of a name under a directory are those of the directory and the name. An empty piece
    at the end of the directory, after a slash, gives way to the name. -/
theorem segments_join (hname : IsName name) (hbase : base.bytes ≠ []) :
    ∃ pieces idle, segments base.bytes = pieces ++ idle ∧ (∀ piece ∈ idle, piece = []) ∧
      segments (base.join ⟨name⟩).bytes = pieces ++ [name] := by
  have hrelative := not_isAbsolute_of_isName hname
  have hsegments := segments_of_slash_notMem hname.slash_notMem
  by_cases hlast : base.bytes.getLast? = some slash
  · obtain ⟨before, hbefore⟩ := List.getLast?_eq_some_iff.1 hlast
    refine ⟨segments before, [[]], ?_, by simp, ?_⟩
    · rw [hbefore, segments_append_slash]
      rfl
    · have hjoin : (base.join ⟨name⟩).bytes = before ++ slash :: name := by
        simp [join, hrelative, hbefore]
      rw [hjoin, segments_append_slash, hsegments]
  · refine ⟨segments base.bytes, [], by simp, by simp, ?_⟩
    have hjoin : (base.join ⟨name⟩).bytes = base.bytes ++ slash :: name := by
      simp [join, hrelative, hlast, hbase]
    rw [hjoin, segments_append_slash, hsegments]

theorem isAbsolute_join (hname : IsName name) :
    (base.join ⟨name⟩).isAbsolute = base.isAbsolute := by
  have hrelative := not_isAbsolute_of_isName hname
  by_cases hbase : base.bytes = []
  · rw [join_of_nil hname.slash_notMem hbase, hrelative, isAbsolute, hbase]
    rfl
  · obtain ⟨b, rest, hbytes⟩ := List.exists_cons_of_ne_nil hbase
    simp only [join, hrelative, Bool.false_eq_true, if_false]
    split <;> simp [isAbsolute, hbytes]

theorem join_inj {other : Bytes} (hname : IsName name) (hother : IsName other) :
    base.join ⟨name⟩ = base.join ⟨other⟩ ↔ name = other := by
  simp only [join, not_isAbsolute_of_isName hname, not_isAbsolute_of_isName hother,
    Bool.false_eq_true, if_false]
  split <;> simp

theorem join_ne_nil (hname : IsName name) : (base.join ⟨name⟩).bytes ≠ [] := by
  have hne := hname.ne_nil
  simp only [join, not_isAbsolute_of_isName hname, Bool.false_eq_true, if_false]
  split <;> simp [hne]

theorem length_le_length_join (hname : IsName name) :
    base.bytes.length ≤ (base.join ⟨name⟩).bytes.length := by
  simp only [join, not_isAbsolute_of_isName hname, Bool.false_eq_true, if_false]
  split <;> simp

theorem length_join_mono (base : Path) {other : Bytes} (hname : IsName name) (hother : IsName other)
    (hle : name.length ≤ other.length) :
    (base.join ⟨name⟩).bytes.length ≤ (base.join ⟨other⟩).bytes.length := by
  simp only [join, not_isAbsolute_of_isName hname, not_isAbsolute_of_isName hother,
    Bool.false_eq_true, if_false]
  split <;> simp [hle]

theorem nul_mem_join_iff (hname : IsName name) :
    (0 : UInt8) ∈ (base.join ⟨name⟩).bytes ↔ (0 : UInt8) ∈ base.bytes := by
  have hnul := hname.nul_notMem
  simp only [join, not_isAbsolute_of_isName hname, Bool.false_eq_true, if_false]
  split <;> simp [hnul, slash]

end

/-- A path, its parent, the parent of that, and so on. -/
inductive UpTo (p : Path) : Path → Prop
  | self : UpTo p p
  | up {q parent : Path} (hup : UpTo p q) (hparent : q.parent? = some parent) : UpTo p parent

theorem UpTo.trans {p q r : Path} (hpq : p.UpTo q) (hqr : q.UpTo r) : p.UpTo r := by
  induction hqr with
  | self => exact hpq
  | up _ hparent ih => exact .up ih hparent

end BootChain.Path
