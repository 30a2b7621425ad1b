import Preflight.Schema.Applicator.Array
import Preflight.Schema.Applicator.Combination
import Preflight.Schema.Applicator.Leftover
import Preflight.Schema.Applicator.Object
import Preflight.Schema.Rule

/-!
# Applying rules

Each rule of a dialect as what it reports at a site. The rules that apply no subschema give a verdict;
the others evaluate subschemas. A keyword that only counts or negates results reports a finding of
its own.
-/

namespace Preflight.Schema

open Json

namespace Evaluator

variable (e : Evaluator)

def applyRecursiveReference (site : Site) : Trace :=
  .after ((site.frame.resolver.lookupRecursive e.fetch).mapError Stop.withoutKind) fun found =>
    e.descendWith site.frame found.resolver found.contents site.target none none

def applyMinimumDraft4 (site : Site) (v : Value) : Trace :=
  if ((Members.get? site.schema "exclusiveMinimum").map Value.isTruthy).getD false then
    .ofVerdict (checkExclusiveMinimum v site.target)
  else .ofVerdict (checkMinimum v site.target)

def applyMaximumDraft4 (site : Site) (v : Value) : Trace :=
  if ((Members.get? site.schema "exclusiveMaximum").map Value.isTruthy).getD false then
    .ofVerdict (checkExclusiveMaximum v site.target)
  else .ofVerdict (checkMaximum v site.target)

def apply (fuel : Nat) (site : Site) (v : Value) : Rule → Trace
  | .reference | .dynamicReference => e.refer site.frame v site.target
  | .recursiveReference => e.applyRecursiveReference site
  | .typeIn => .ofVerdict (checkType site.frame.dialect v site.target)
  | .typeInDraft3 => e.applyTypeDraft3 site v
  | .oneOfValues => .ofVerdict (checkEnum v site.target)
  | .constant => .ofVerdict (checkConst v site.target)
  | .minimum => .ofVerdict (checkMinimum v site.target)
  | .maximum => .ofVerdict (checkMaximum v site.target)
  | .minimumDraft4 => applyMinimumDraft4 site v
  | .maximumDraft4 => applyMaximumDraft4 site v
  | .exclusiveMinimum => .ofVerdict (checkExclusiveMinimum v site.target)
  | .exclusiveMaximum => .ofVerdict (checkExclusiveMaximum v site.target)
  | .multipleOf => .ofVerdict (checkMultiple v site.target)
  | .minLength => .ofVerdict (checkMinLength v site.target)
  | .maxLength => .ofVerdict (checkMaxLength v site.target)
  | .pattern => .ofVerdict (checkPattern v site.target)
  | .format => if e.formats then .ofVerdict (checkFormat v site.target) else .done
  | .minItems => .ofVerdict (checkMinItems v site.target)
  | .maxItems => .ofVerdict (checkMaxItems v site.target)
  | .uniqueItems => .ofVerdict (checkUnique v site.target)
  | .items => e.applyItems site v
  | .itemsDraft4 => e.applyItemsDraft4 site v
  | .itemsDraft2019 => e.applyItemsDraft2019 site v
  | .prefixItems => e.applyPrefixItems site v
  | .additionalItems => e.applyAdditionalItems site v
  | .contains => e.applyContains site v
  | .containsDraft7 => e.applyContainsDraft7 site v
  | .minProperties => .ofVerdict (checkMinProperties v site.target)
  | .maxProperties => .ofVerdict (checkMaxProperties v site.target)
  | .required => applyRequired site v
  | .properties => e.applyProperties site v
  | .propertiesDraft3 => e.applyPropertiesDraft3 site v
  | .patternProperties => e.applyPatternProperties site v
  | .additionalProperties => e.applyAdditionalProperties site v
  | .propertyNames => e.applyPropertyNames site v
  | .dependentRequired => applyDependentRequired site v
  | .dependentSchemas => e.applyDependentSchemas site v
  | .dependenciesDraft3 => e.applyDependenciesDraft3 site v
  | .dependenciesDraft7 => e.applyDependenciesDraft7 site v
  | .allOf => e.applyAllOf site v
  | .anyOf => e.applyAnyOf site v
  | .oneOf => e.applyOneOf site v
  | .not => e.applyNot site v
  | .ifThenElse => e.applyIf site v
  | .extends => e.applyExtends site v
  | .disallow => e.applyDisallow site v
  | .unevaluatedItems => e.applyUnevaluatedItems fuel site v
  | .unevaluatedProperties => e.applyUnevaluatedProperties fuel site v

end Evaluator

end Preflight.Schema
