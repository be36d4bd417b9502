import BootChain.CommandLine.Plan
import BootChain.Report.Text

namespace BootChain.CommandLine

/-- The canonical text of a document, on a line of its own. -/
def documentLine (document : Except EncodeError Json) : Except Problem String :=
  (document.mapError .outputNotEncoded).map fun json => json.canonical ++ "\n"

/-- Lists the generations of the chain. -/
def stageListing (options : ListingOptions) (around : Surroundings) : Except Problem String := do
  let config ← options.layout.effective around
  let chain := probedChain config around.files
  match options.format with
  | .text => return chain.listing
  | .json => documentLine chain.json

/-- The lines of a catalog. -/
def catalogText (catalog : Catalog) : String :=
  String.join (catalog.fixtures.map fun fixture =>
      fixture.id.text ++ "\t" ++ fixture.source.shown ++ "\n") ++
    String.join (catalog.orphans.map fun orphan => "orphan\t" ++ orphan.shown ++ "\n")

/-- The document of a catalog, with the lengths of the expected outputs. -/
def catalogJson (catalog : Catalog) : Except EncodeError Json := do
  let fixtures ← catalog.fixtures.mapM fun fixture => do
    return Json.obj [("id", .str fixture.id.text), ("source", ← fixture.source.json),
      ("expected_bytes", .nat fixture.expected.length)]
  let orphans ← catalog.orphans.mapM Path.json
  return .obj [("fixtures", .arr fixtures), ("orphans", .arr orphans)]

/-- Lists the test programs. -/
def fixtureListing (options : ListingOptions) (around : Surroundings) :
    Except Problem String := do
  let config ← options.layout.effective around
  let catalog ← discovered config around.files
  match options.format with
  | .text => return catalogText catalog
  | .json => documentLine (catalogJson catalog)

/-- Says that the config is valid and where it comes from, or prints it. -/
def configListing (options : CheckOptions) (around : Surroundings) : Except Problem String := do
  let layout : Layout := { config := options.config }
  let config ← layout.effective around
  if options.print then config.toText.mapError .configNotWritten
  else
    let origin := (config.source.map Path.shown).getD "built-in defaults"
    return "config ok (" ++ origin ++ ")\n"

end BootChain.CommandLine
