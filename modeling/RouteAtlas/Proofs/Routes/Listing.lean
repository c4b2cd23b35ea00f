import RouteAtlas.Proofs.Routes.Bindings
import RouteAtlas.Proofs.Routes.Resolve
import RouteAtlas.Proofs.Text.Order
import RouteAtlas.Routes.RouteTree

/-!
# The routes of bindings are those that their entries amount to

The routes of bindings come out of a walk along the tables and a sort. Together these lose nothing,
double nothing and invent nothing:

- `PathEntry.route?`: the route of an entry, where its name comes from a module;
- `IsListing`: a list of routes is what entries and a map of names to modules amount to;
- `Bindings.isListing_routes`: the routes of bindings are such a list, and it is the only one
  (`IsListing.unique`);
- `Bindings.routes_congr`: the routes depend on the tables as maps and on the order within paths.
-/

namespace RouteAtlas

open Script

/-- The route of an entry, where its name comes from a module. -/
def PathEntry.route? (moduleOf : String → Option Text) (e : PathEntry) : Option Route :=
  (moduleOf e.name).map (Route.mk e.path)

namespace PathEntry

/-- A route has the path of its entry. -/
theorem path_of_route? {moduleOf : String → Option Text} {e : PathEntry} {r : Route}
    (h : e.route? moduleOf = some r) : r.path = e.path := by
  obtain ⟨m, -, rfl⟩ := Option.map_eq_some_iff.mp h
  rfl

/-- The routes of one path come from the entries of that path. -/
theorem withKey_route? (moduleOf : String → Option Text) (p : Text) (es : List PathEntry) :
    withKey Route.path p (es.filterMap (route? moduleOf)) =
      (withKey PathEntry.path p es).filterMap (route? moduleOf) := by
  induction es with
  | nil => rfl
  | cons e es ih =>
    rw [withKey_cons]
    cases h : e.route? moduleOf with
    | none =>
      rw [List.filterMap_cons_none h, ih]
      split
      · rw [List.filterMap_cons_none h]
      · rfl
    | some r =>
      rw [List.filterMap_cons_some h, withKey_cons, path_of_route? h, ih]
      split
      · rw [List.filterMap_cons_some h]
      · rfl

/-- What an entry says of its route, without its line. -/
def said (e : PathEntry) : Text × String := (e.path, e.name)

/-- The line of an entry does not matter to its route. -/
theorem filterMap_route?_congr (moduleOf : String → Option Text) {es fs : List PathEntry}
    (h : es.map said = fs.map said) :
    es.filterMap (route? moduleOf) = fs.filterMap (route? moduleOf) := by
  have hroute : route? moduleOf = (fun s => (moduleOf s.2).map (Route.mk s.1)) ∘ said := rfl
  rw [hroute, ← List.filterMap_map, ← List.filterMap_map, h]

end PathEntry

/-- `rs` is what the entries `es` amount to where names come from modules as `moduleOf` says: it is
sorted by the code points of the paths, and under every path it holds exactly the routes of the
entries of that path whose names have a module, in their order and with their multiplicity. -/
structure IsListing (es : List PathEntry) (moduleOf : String → Option Text) (rs : List Route) :
    Prop where
  sorted : rs.Pairwise fun r s => r.path.vals ≤ s.path.vals
  exact_at : ∀ p, rs.filter (fun r => r.path = p) =
    (es.filter fun e => e.path = p).filterMap (PathEntry.route? moduleOf)

namespace IsListing

variable {es fs : List PathEntry} {moduleOf : String → Option Text} {rs ss : List Route}

theorem sortedBy (h : IsListing es moduleOf rs) : SortedBy Route.path rs :=
  h.sorted.imp fun hle => (Text.le_iff _ _).mpr hle

/-- Entries that say the same under every path amount to the same list. -/
theorem unique (hr : IsListing es moduleOf rs) (hs : IsListing fs moduleOf ss)
    (h : ∀ p, (withKey PathEntry.path p es).map PathEntry.said =
      (withKey PathEntry.path p fs).map PathEntry.said) : rs = ss := by
  refine eq_of_sorted_of_withKey_eq Route.path hr.sortedBy hs.sortedBy fun p => ?_
  calc withKey Route.path p rs
      = (withKey PathEntry.path p es).filterMap (PathEntry.route? moduleOf) := hr.exact_at p
    _ = (withKey PathEntry.path p fs).filterMap (PathEntry.route? moduleOf) :=
        PathEntry.filterMap_route?_congr moduleOf (h p)
    _ = withKey Route.path p ss := (hs.exact_at p).symm

end IsListing

namespace Bindings

/-- The module that a name comes from. -/
def moduleOfName? (b : Bindings) : String → Option Text := resolve b.children b.updates b.imports

/-- The routes of bindings are what their entries amount to. -/
theorem isListing_routes (b : Bindings) : IsListing b.entries b.moduleOfName? b.routes := by
  have hroutes : b.routes =
      (b.entries.filterMap (PathEntry.route? b.moduleOfName?)).mergeSort (keyLe Route.path) := rfl
  rw [hroutes]
  constructor
  · exact (sortedBy_mergeSort Route.path _).imp fun hle => (Text.le_iff _ _).mp hle
  · intro p
    exact (withKey_mergeSort Route.path p _).trans (PathEntry.withKey_route? _ p _)

/-- **Routes see tables as maps, and entries up to the order between paths**: bindings whose tables
look the same, and whose entries say the same under every path, have the same routes. -/
theorem routes_congr {b c : Bindings} (hi : ∀ n, b.imports.get? n = c.imports.get? n)
    (hu : ∀ n, b.updates.get? n = c.updates.get? n)
    (hc : ∀ n, b.children.get? n = c.children.get? n)
    (he : ∀ p, (withKey PathEntry.path p b.entries).map PathEntry.said =
      (withKey PathEntry.path p c.entries).map PathEntry.said) : b.routes = c.routes := by
  have hm : c.moduleOfName? = b.moduleOfName? := (funext (resolve_congr hc hu hi)).symm
  exact (isListing_routes b).unique (hm ▸ isListing_routes c) he

/-- The lines of the entries do not matter to the routes. -/
theorem routes_eq_of_said {b c : Bindings} (hi : b.imports = c.imports)
    (hu : b.updates = c.updates) (hc : b.children = c.children)
    (he : b.entries.map PathEntry.said = c.entries.map PathEntry.said) : b.routes = c.routes := by
  have hm : b.moduleOfName? = c.moduleOfName? := by
    rw [moduleOfName?, moduleOfName?, hi, hu, hc]
  have hroutes := PathEntry.filterMap_route?_congr b.moduleOfName? he
  exact congrArg (·.mergeSort (keyLe Route.path)) (hroutes.trans (by rw [hm]))

end Bindings

/-- An accepted script has a route tree, with the bindings of its items. -/
theorem RouteTree.parse?_of_items {source : List Char} {items : List Item}
    (h : Script.parse? source = some items) :
    RouteTree.parse? source = some ⟨items, .ofItems items⟩ := by
  rw [RouteTree.parse?, h]
  rfl

end RouteAtlas
