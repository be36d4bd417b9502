namespace BootChain.Text

/-- Replaces each occurrence of `needle`, from left to right and without overlap, after passing
    over `skip` characters. -/
def replaceFrom (needle replacement : List Char) : Nat → List Char → List Char
  | _, [] => []
  | skip + 1, _ :: rest => replaceFrom needle replacement skip rest
  | 0, c :: rest =>
    if needle.isPrefixOf (c :: rest) then
      replacement ++ replaceFrom needle replacement (needle.length - 1) rest
    else c :: replaceFrom needle replacement 0 rest

/-- Replaces each occurrence of a text that is not empty, from left to right. -/
def replaceAll (needle replacement : List Char) (text : List Char) : List Char :=
  replaceFrom needle replacement 0 text

/-- True when `needle` stands somewhere in the text. -/
def occursIn (needle : List Char) : List Char → Bool
  | [] => needle.isEmpty
  | c :: rest => needle.isPrefixOf (c :: rest) || occursIn needle rest

theorem replaceFrom_of_not_occursIn {needle replacement : List Char} {text : List Char}
    (h : occursIn needle text = false) : replaceFrom needle replacement 0 text = text := by
  induction text with
  | nil => rfl
  | cons c rest ih =>
    rw [occursIn, Bool.or_eq_false_iff] at h
    rw [replaceFrom, h.1, ih h.2]
    rfl

end BootChain.Text
