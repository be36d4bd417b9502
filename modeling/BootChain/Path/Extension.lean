import BootChain.Path

namespace BootChain.Path

/-- A file name cut at its last dot, if that dot is not the first octet. -/
def cutAtDot? (name : Bytes) : Option (Bytes × Bytes) :=
  let reversed := name.reverse
  let after := reversed.takeWhile (· ≠ dot)
  match reversed.dropWhile (· ≠ dot) with
  | [] => none
  | [_] => none
  | _ :: before => some (before.reverse, after.reverse)

/-- What follows the last dot of the file name. A leading dot alone starts no extension. -/
def extension? (p : Path) : Option Bytes :=
  p.fileName?.bind fun name => (cutAtDot? name).map Prod.snd

/-- The file name without its extension. -/
def stem? (p : Path) : Option Bytes :=
  p.fileName?.map fun name => ((cutAtDot? name).map Prod.fst).getD name

/-- Puts an extension in the place of the one there is; an empty one only takes that away. A path
    without a file name is left alone, and what follows the file name is dropped. -/
def setExtension (p : Path) (extension : Bytes) : Path :=
  match p.stem? with
  | none => p
  | some stem =>
    let base := p.splitLast.1 ++ stem
    ⟨if extension = [] then base else base ++ dot :: extension⟩

/-- The path with another extension. As many octets as the old extension has are cut from the end
    first, so a name that is then no longer a file name stays as it was cut. -/
def withExtension (p : Path) (extension : Bytes) : Path :=
  let old := (p.extension?.map List.length).getD 0
  setExtension ⟨p.bytes.take (p.bytes.length - old)⟩ extension

end BootChain.Path
