import RouteAtlas.Table

/-!
# From a name to a module

A route is named by a variable. The variable is wrapped around another one any number of times,
that one is made from an imported name at most once, and the imported name comes from a module.

- `follow`: the walk along a table of wrappers, which stops at a name met before;
- `resolve`: the module that a name comes from.
-/

namespace RouteAtlas

variable {α β : Type} [DecidableEq α]

/-- Walks from `name` along `wraps` until a name wraps nothing or was met before (`seen`), for at
most the given number of steps. -/
def follow (wraps : Table α α) : Nat → (seen : List α) → (name : α) → α
  | 0, _, name => name
  | n + 1, seen, name =>
    match wraps.get? name with
    | none => name
    | some inner => if name ∈ seen then name else follow wraps n (name :: seen) inner

/-- The name where the walk from `name` along `wraps` stops. Each step meets another key, so one
step more than there are bindings is enough. -/
def unwrap (wraps : Table α α) (name : α) : α := follow wraps (wraps.length + 1) [] name

/-- The module that `name` comes from: through its wrappers, at most one `makes`, and the
imports. -/
def resolve (wraps makes : Table α α) (imports : Table α β) (name : α) : Option β :=
  let inner := unwrap wraps name
  imports.get? ((makes.get? inner).getD inner)

end RouteAtlas
