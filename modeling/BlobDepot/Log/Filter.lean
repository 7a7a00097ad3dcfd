import BlobDepot.Log.Directive

/-! # Log filters

Which events are shown.  A filter is a list of directives between commas.  An event
is judged by the most particular directive that is about it, and of two that are
equally particular by the later one.  If no directive is about it, the event is not
shown.
-/

namespace BlobDepot.Log

structure Filter where
  directives : List Directive
  deriving DecidableEq, Repr

namespace Filter

/-- Reads a filter.  Nothing between two commas is no directive; a filter with a
    directive that cannot be read is none. -/
def parse? (s : String) : Option Filter :=
  (((s.toList.splitOn ',').filter (· ≠ [])).mapM Directive.parse?).map (⟨·⟩)

/-- The filter that is used unless another one is asked for. -/
def default : Filter where
  directives := [
    { target := "blob_cache".toList, verbosity := 3 },
    { target := "tower_http".toList, verbosity := 3 }]

/-- The one of two directives that judges what both are about. -/
def preferred (best : Option Directive) (d : Directive) : Option Directive :=
  match best with
  | none => some d
  | some b => if b.yieldsTo d then some d else some b

/-- The directive that judges an event. -/
def judge? (f : Filter) (e : Event) : Option Directive :=
  (f.directives.filter (·.isAbout e)).foldl preferred none

def shows (f : Filter) (e : Event) : Bool :=
  (f.judge? e).any (e.level.rank ≤ ·.verbosity)

end Filter

end BlobDepot.Log
