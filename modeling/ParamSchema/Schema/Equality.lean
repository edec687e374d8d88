import ParamSchema.Json.Equality
import ParamSchema.Schema.Basic

/-!
# Equality of schemas

Properties are compared without order, patterns by their source, bounds as
numbers, and listed values and defaults as they are written.
-/

set_option autoImplicit false

namespace ParamSchema

def agreeing {α : Type} (agree : α → α → Bool) : Option α → Option α → Bool
  | none, none => true
  | some a, some b => agree a b
  | _, _ => false

def Common.same (a b : Common) : Bool :=
  a.nullable == b.nullable &&
    agreeing (Json.equalItemsBy Number.identical) a.choices b.choices &&
    agreeing Json.identical a.default b.default

def StringRules.same (a b : StringRules) : Bool :=
  a.minLength == b.minLength && a.maxLength == b.maxLength &&
    agreeing (fun p q => p.source == q.source) a.pattern b.pattern && a.format == b.format

def Bound.same (a b : Bound) : Bool := a.value.sameValue b.value && a.exclusive == b.exclusive

def NumberRules.same (a b : NumberRules) : Bool :=
  agreeing Bound.same a.minimum b.minimum && agreeing Bound.same a.maximum b.maximum &&
    agreeing Binary64.sameValue a.multipleOf b.multipleOf

namespace Schema

mutual

def same : Schema → Schema → Bool
  | .combined c as, .combined d bs => c == d && sameMembers as bs
  | .string a r, .string b s => a.same b && r.same s
  | .numeric a t r, .numeric b u s => a.same b && t == u && r.same s
  | .boolean a, .boolean b => a.same b
  | .array a r x, .array b s y => a.same b && r == s && same x y
  | .object a r, .object b s => a.same b && r == s
  | .record a r ps x, .record b s qs y =>
    a.same b && r == s && ps.length == qs.length && sameProperties ps qs && sameExtra x y
  | _, _ => false

def sameMembers : List Schema → List Schema → Bool
  | [], [] => true
  | a :: as, b :: bs => same a b && sameMembers as bs
  | _, _ => false

/-- Every property of the first list has an equal schema under its name in the second. -/
def sameProperties : List (String × Schema) → List (String × Schema) → Bool
  | [], _ => true
  | (name, a) :: as, bs =>
    (match bs.lookup name with
      | some b => same a b
      | none => false) && sameProperties as bs

def sameExtra : Extra Schema → Extra Schema → Bool
  | .allowed, .allowed | .refused, .refused => true
  | .matching a, .matching b => same a b
  | _, _ => false

end

end Schema

end ParamSchema
