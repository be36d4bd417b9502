import BootChain.CommandLine.Listing
import BootChain.CommandLine.Run

namespace BootChain.CommandLine

/-- Does what is asked for. -/
def Request.perform (request : Request) (around : Surroundings) : Outcome :=
  match request with
  | .run options => options.outcome around
  | .stages options => .ofText around.files (stageListing options around)
  | .fixtures options => .ofText around.files (fixtureListing options around)
  | .checkConfig options => .ofText around.files (configListing options around)

/-- Reads arguments and does what they ask for. -/
def perform (arguments : List Bytes) (around : Surroundings) : Outcome :=
  match Request.ofArguments arguments with
  | .ok request => request.perform around
  | .error stop => .ofStop around.files stop

end BootChain.CommandLine
