import PageRouter.Pattern.Compile
import PageRouter.Address.Link

/-!
# Errors

What can be wrong with the wiring of routes.  A location that a route does not match is no error.
Each error names its cause; `RouterError.message` is its one wording.
-/

namespace PageRouter

open Text

/-- What is wrong with a route, or with what is asked of it. -/
inductive RouterError where
  | invalidPattern (text : Text) (fault : PatternFault)
  | missingPattern
  /-- The route has no element to show. -/
  | missingElement (label : Text)
  /-- The route has another pattern already. -/
  | patternImmutable (current : Text)
  /-- The page has a root already. -/
  | rootAlreadySet (current : Text)
  /-- Some parameters of the path have no value. -/
  | unresolvedParams (path : Text) (names : List Text)
  /-- The link leads nowhere on the page. -/
  | invalidUrl (url : Text) (fault : LinkFault)
  deriving DecidableEq, Repr

def inBackquotes (text : Text) : Text :=
  '\x60' :: (text ++ ['\x60'])

/-- The wording of a pattern's fault. -/
def PatternFault.reason : PatternFault → Text
  | .empty => "pattern is empty".toList
  | .literalAfterSplat => "literal text after the splat parameter".toList
  | .namedAfterSplat name => inBackquotes (':' :: name) ++ " after the splat parameter".toList
  | .groupAfterSplat => inBackquotes ['('] ++ " after the splat parameter".toList
  | .secondSplat name => "second splat parameter ".toList ++ inBackquotes ('*' :: name)
  | .unmatchedClose => "unmatched ".toList ++ inBackquotes [')']
  | .unclosed count => ofNat count ++ " unclosed ".toList ++ inBackquotes ['(']
  | .tooDeep => "regex engine limit".toList

/-- The wording of a link's fault. -/
def LinkFault.reason : LinkFault → Text
  | .invalid => "InvalidHref".toList
  | .otherOrigin => "points at another origin".toList

/-- Names between quotes, parted by commas, in brackets. -/
def listOfNames (names : List Text) : Text :=
  '[' :: (", ".toList.intercalate (names.map fun name => '"' :: (name ++ ['"'])) ++ [']'])

def RouterError.message : RouterError → Text
  | .invalidPattern _ .tooDeep => PatternFault.tooDeep.reason
  | .invalidPattern text fault =>
    "invalid route pattern ".toList ++ inBackquotes text ++ ": ".toList ++ fault.reason
  | .missingPattern => "route has no pattern".toList
  | .missingElement label =>
    "route ".toList ++ inBackquotes label ++ " has no element to render".toList
  | .patternImmutable current =>
    "route pattern is immutable once set (current: ".toList ++ inBackquotes current ++ [')']
  | .rootAlreadySet current => "root prefix is already set to ".toList ++ inBackquotes current
  | .unresolvedParams path names =>
    "cannot navigate to ".toList ++ inBackquotes path ++ ": unresolved parameters ".toList ++
      listOfNames names
  | .invalidUrl url fault =>
    "invalid url ".toList ++ inBackquotes url ++ ": ".toList ++ fault.reason

end PageRouter
