import Provisioning.Domain.Name
import Provisioning.Text.Blank
import Provisioning.Text.Case

/-!
Public suffixes. Which part of a name is a public suffix is for a suffix list to say; everything
here works with any list. The built-in list is a set of rules: a plain rule names a suffix, a
wildcard rule makes every name with exactly one more label a suffix, and an exception takes one such
name out again, which leaves the part behind the label. Of several matching rules the longest wins;
a name that no rule matches has no suffix.
-/

set_option autoImplicit false

namespace Provisioning.Domain

/-- A suffix list: it gives the public suffix of a name in small letters that does not end in a dot,
and the empty text where there is none. -/
class SuffixList where
  suffix : String → String

/-- A rule of the built-in list, with its labels in reading order. -/
inductive Rule
  | plain (labels : List String)
  | wildcard (labels : List String)
  | exception (label : String) (labels : List String)
  deriving DecidableEq, Repr

/-- The rules of the built-in list. -/
def rules : List Rule :=
  [.plain ["aero"], .plain ["app"], .plain ["arpa"], .plain ["e164", "arpa"],
    .plain ["in-addr", "arpa"], .plain ["au"], .plain ["com", "au"], .wildcard ["bd"],
    .plain ["br"], .plain ["com", "br"], .wildcard ["nom", "br"], .exception "www" ["ck"],
    .wildcard ["ck"], .plain ["com"], .plain ["de"], .plain ["dev"], .plain ["edu"],
    .wildcard ["er"], .wildcard ["fk"], .plain ["io"], .plain ["jp"], .plain ["ac", "jp"],
    .plain ["co", "jp"], .exception "city" ["kawasaki", "jp"], .wildcard ["kawasaki", "jp"],
    .plain ["tokyo", "jp"], .plain ["chiyoda", "tokyo", "jp"], .wildcard ["mm"],
    .plain ["museum"], .plain ["net"], .wildcard ["np"], .plain ["org"], .plain ["uk"],
    .plain ["ac", "uk"], .plain ["co", "uk"], .plain ["gov", "uk"], .plain ["police", "uk"],
    .wildcard ["sch", "uk"], .plain ["us"], .plain ["ca", "us"], .plain ["k12", "ca", "us"],
    .plain ["ma", "us"], .plain ["k12", "ma", "us"], .plain ["pvt", "k12", "ma", "us"],
    .plain ["xn--80asehdb"], .plain ["xn--p1ai"]]

/-- The labels that a rule spells out. -/
def Rule.labels : Rule → List String
  | plain ls | wildcard ls => ls
  | exception l ls => l :: ls

/-- Whether some rule spells out `labels`, alone or behind further labels. -/
def isSpelled (labels : List String) : Bool :=
  rules.any fun r ↦ match r with
    | .plain ls | .wildcard ls => labels.isSuffixOf ls
    | .exception _ ls => labels.isSuffixOf ls

/-- Follows the labels of a name from the last one to the first. `read` holds the labels already
followed and `found` the longest suffix among them. -/
def followRules (read found : List String) : (remaining : List String) → List String
  | [] => found
  | label :: remaining =>
    let next := label :: read
    if isSpelled next then
      followRules next (if rules.contains (.plain next) then next else found) remaining
    else if rules.contains (.wildcard read) then
      if rules.contains (.exception label read) then read else next
    else found

/-- The labels of a name as the rules are matched against them: without blank characters around them
and without dots at the end. -/
def lookupLabels (name : String) : List String :=
  let trimmed := dropDots (Text.trim Text.isSpacing name).toList
  (splitDots trimmed).map String.ofList

/-- The built-in list. -/
instance builtIn : SuffixList where
  suffix := fun name ↦ ".".intercalate (followRules [] [] (lookupLabels name).reverse)

variable [SuffixList]

/-- The public suffix of a name, in whatever letters and with whatever number of dots at the end; the
empty text if it has none. -/
def publicSuffix (domain : String) : String :=
  SuffixList.suffix (Text.toLower (String.ofList (dropDots domain.toList)))

/-- Whether a text is a domain name that ends in a public suffix. -/
def hasPublicSuffix (domain : String) : Bool :=
  isName domain && !(publicSuffix domain).isEmpty

end Provisioning.Domain
