import Std.Data.ExtTreeMap
/-!
# Tables

Values kept under texts.  Two tables with the same values under the same keys are equal, and a table lists its keys in
the order of texts.
-/
namespace ChatClient

abbrev Table (α : Type) : Type :=
  Std.ExtTreeMap String α compare

end ChatClient
