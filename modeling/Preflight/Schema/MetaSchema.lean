import Preflight.Schema.MetaSchema.Draft2019
import Preflight.Schema.MetaSchema.Draft2020
import Preflight.Schema.MetaSchema.Draft3
import Preflight.Schema.MetaSchema.Draft4
import Preflight.Schema.MetaSchema.Draft6
import Preflight.Schema.MetaSchema.Draft7
import Preflight.Schema.Registry

/-!
# Meta-schemas

The schema that the schemas of each dialect have to satisfy, and the registry of all of them: they
are known without being loaded.
-/

namespace Preflight.Schema.MetaSchema

open Json

def root : Dialect → Value
  | .draft3 => Draft3.root
  | .draft4 => Draft4.root
  | .draft6 => Draft6.root
  | .draft7 => Draft7.root
  | .draft2019 => Draft2019.root
  | .draft2020 => Draft2020.root

def documents : List (Dialect × Value) :=
  Draft3.documents.map (.draft3, ·) ++ Draft4.documents.map (.draft4, ·) ++
    Draft6.documents.map (.draft6, ·) ++ Draft7.documents.map (.draft7, ·) ++
    Draft2019.documents.map (.draft2019, ·) ++ Draft2020.documents.map (.draft2020, ·)

def uncrawled : Registry :=
  documents.foldl (fun registry (dialect, document) =>
    let r := Resource.ofDocument dialect document
    registry.add (r.id?.getD "") r) .empty

def registry : Registry :=
  match uncrawled.crawl with
  | .ok registry => registry
  | .error _ => uncrawled

end Preflight.Schema.MetaSchema
