import EventRules.Function.Collection
import EventRules.Function.Conversion
import EventRules.Function.Lookup
import EventRules.Function.Network
import EventRules.Function.Numeric
import EventRules.Function.Pattern
import EventRules.Function.Registry
import EventRules.Function.Text
import EventRules.Function.Time

/-!
# Catalog of functions
-/

namespace EventRules

/-- The functions that every registry can start with. -/
def catalog : List Builtin :=
  TextFunctions.catalog ++ ConversionFunctions.catalog ++ CollectionFunctions.catalog ++
    NumericFunctions.catalog ++ LookupFunctions.catalog ++ NetworkFunctions.catalog ++ PatternFunctions.catalog ++
    TimeFunctions.catalog

namespace Registry

/-- Adds a function of the catalog. -/
def addBuiltin (r : Registry) (b : Builtin) : Registry :=
  { r with
    table := Keyed.insert r.table b.info.name { info := b.info, id := r.nextId, function := b.function }
    nextId := r.nextId + 1 }

/-- A registry of the functions of the catalog. -/
def ofCatalog (context : Context) : Registry :=
  catalog.foldl addBuiltin { context }

end Registry

end EventRules
