/-! Modifiers: words before a declaration keyword, and the variance of a type parameter. -/
namespace Highlight

inductive Modifier
  | publicAccess
  | privateAccess
  | internalAccess
  | protectedAccess
  | staticMember
  | readOnly
  | byReference
  | partialType
  | sealedType
  | abstractMember
  | unsafeContext
  | externalBody
  | virtualMember
  | overridingMember
  | asynchronous
  | constant
  | volatileField
  | contravariant
  | covariant
deriving DecidableEq, Repr

namespace Modifier

def spelling : Modifier → String
  | publicAccess => "public"
  | privateAccess => "private"
  | internalAccess => "internal"
  | protectedAccess => "protected"
  | staticMember => "static"
  | readOnly => "readonly"
  | byReference => "ref"
  | partialType => "partial"
  | sealedType => "sealed"
  | abstractMember => "abstract"
  | unsafeContext => "unsafe"
  | externalBody => "extern"
  | virtualMember => "virtual"
  | overridingMember => "override"
  | asynchronous => "async"
  | constant => "const"
  | volatileField => "volatile"
  | contravariant => "in"
  | covariant => "out"

def ofDeclarations : List Modifier :=
  [publicAccess, privateAccess, internalAccess, protectedAccess, staticMember, readOnly,
   byReference, partialType, sealedType, abstractMember, unsafeContext, externalBody,
   virtualMember, overridingMember, asynchronous, constant, volatileField]

def ofTypeParameters : List Modifier :=
  [contravariant, covariant]

def all : List Modifier :=
  ofDeclarations ++ ofTypeParameters

def ofWord? (w : String) : Option Modifier :=
  ofDeclarations.find? (·.spelling = w)

def variance? (w : String) : Option Modifier :=
  ofTypeParameters.find? (·.spelling = w)

theorem spelling_of_ofWord? (found : ofWord? w = some modifier) : modifier.spelling = w := by
  simpa using List.find?_some found

theorem spelling_of_variance? (found : variance? w = some modifier) : modifier.spelling = w := by
  simpa using List.find?_some found

end Modifier
end Highlight
