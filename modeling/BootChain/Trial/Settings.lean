import BootChain.Template

namespace BootChain

/-- What all trials of a run have in common. -/
structure Settings where
  toolchain : Path := .ofText "clang"
  compileArgs : Template := .compileDefault
  linkArgs : Template := .linkDefault
  artifactDir : Path
  limitMs : Nat := 60000
  keepArtifacts : Bool := true

namespace Settings

/-- The settings with an absolute artifact directory, so that a linked program is never looked
    for in the search path. An empty one stays empty. -/
def absolute (settings : Settings) (workingDirectory : Path) : Settings :=
  if settings.artifactDir.bytes = [] then settings
  else { settings with artifactDir := Path.absoluteFrom workingDirectory settings.artifactDir }

end Settings

end BootChain
