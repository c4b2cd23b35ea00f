import RouteAtlas.Proofs.Script.Generated
import RouteAtlas.Proofs.Script.Outline

/-!
# The routes of a script are those that its tree declares

What a script declares is told by its syntax tree: the names that its imports bind, the constants
that it makes by calls, and the members of its path interface. From the characters on, reading,
collecting, walking and sorting together lose nothing of it, double nothing and invent nothing.

- `parse?_isListing`: **the routes of an accepted script**, in terms of its tree;
- `repeatedNames`: a script that binds names twice and lists paths twice.
-/

namespace RouteAtlas

open Script

/-- Entries that say the same amount to the same routes. -/
theorem IsListing.congr {es fs : List PathEntry} {moduleOf : String → Option Text} {rs : List Route}
    (h : IsListing es moduleOf rs) (hsaid : es.map PathEntry.said = fs.map PathEntry.said) :
    IsListing fs moduleOf rs := by
  have hat : ∀ (p : Text) (gs : List PathEntry),
      (gs.filter fun e => e.path = p).map PathEntry.said =
        (gs.map PathEntry.said).filter fun e => e.1 = p := by
    intro p gs
    rw [List.filter_map]
    rfl
  refine ⟨h.sorted, fun p => (h.exact_at p).trans ?_⟩
  refine PathEntry.filterMap_route?_congr moduleOf ?_
  rw [hat, hat, hsaid]

/-- **The routes of an accepted script are those that it declares.** Let `r` be the syntax tree of
an accepted script. Let `imports`, `updates` and `children` be any tables in which the last
declaration of every name in the statements of the tree wins, and let `es` be entries that say what
the members of its path interfaces say, in their order. Then the script has a list of routes, and
it is the one list that these entries amount to when their names are resolved in these tables. -/
theorem parse?_isListing {source : List Char} {r : Reading}
    (hread : Source.read? source.toArray = some r) (hnul : '\x00' ∉ source)
    {imports : Table String Text} {updates children : Table String String} {es : List PathEntry}
    (hi : imports.LastWins (r.statements.flatMap (Source.importsOf source.toArray)))
    (hu : updates.LastWins (r.statements.flatMap (Source.makesOf source.toArray updateMethod)))
    (hc : children.LastWins (r.statements.flatMap (Source.makesOf source.toArray childrenMethod)))
    (he : es.map PathEntry.said = (r.statements.flatMap (Source.membersOf source.toArray)).filterMap
      (Source.said? source.toArray)) :
    ∃ t, RouteTree.parse? source = some t ∧
      IsListing es (resolve children updates imports) t.routes ∧
      ∀ rs, IsListing es (resolve children updates imports) rs → rs = t.routes := by
  obtain ⟨himports, hupdates, hchildren, hentries⟩ := Source.ofItems_items source.toArray r
  -- the tables of the pass are such tables as well, so they look the same as the given ones
  have hmodule : (Bindings.ofItems (Source.items source.toArray r)).moduleOfName? =
      resolve children updates imports := by
    rw [Bindings.moduleOfName?, himports, hupdates, hchildren]
    exact funext (resolve_congr ((Table.lastWins_bindAll _).get?_eq hc)
      ((Table.lastWins_bindAll _).get?_eq hu) ((Table.lastWins_bindAll _).get?_eq hi))
  have hlist := Bindings.isListing_routes (.ofItems (Source.items source.toArray r))
  rw [hmodule] at hlist
  have hlisting := hlist.congr (hentries.trans he.symm)
  exact ⟨_, RouteTree.parse?_of_items (parse?_of_read? hread hnul), hlisting, fun rs hrs =>
    hrs.unique hlisting fun _ => rfl⟩

/-- The statements of a script that imports one name twice, and lists one path twice, once through
a wrapper. Some of them end with semicolons. -/
def repeatedNames : List Declaration :=
  [.import_ "Route" "aRoute" (LineText.mk "./a".toList).literal true,
    .import_ "Route" "bRoute" (LineText.mk "./b".toList).literal,
    .import_ "Route" "aRoute" (LineText.mk "./c".toList).literal true,
    .call "xRoute" "aRoute" updateMethod (.name "yRoute") true,
    .call "wRoute" "xRoute" childrenMethod (.name "zRoute"),
    .interface_ pathInterface
      [((LineText.mk "/s".toList).literal, "wRoute"), ((LineText.mk "/".toList).literal, "bRoute"),
        ((LineText.mk "/s".toList).literal, "bRoute")]]

/-- Their text, both entries of the repeated path in order, and the module of the later import. -/
theorem parse?_isListing_repeatedNames :
    Generated.script repeatedNames =
      ["import \x7b Route as aRoute \x7d from \x27./a\x27;\n",
        "import \x7b Route as bRoute \x7d from \x27./b\x27\n",
        "import \x7b Route as aRoute \x7d from \x27./c\x27;\n",
        "const xRoute = aRoute.update(yRoute);\n",
        "const wRoute = xRoute._addFileChildren(zRoute)\n",
        "export interface FileRoutesByFullPath \x7b\n",
        "  \x27/s\x27: typeof wRoute\n", "  \x27/\x27: typeof bRoute\n",
        "  \x27/s\x27: typeof bRoute\n", "\x7d\n"].flatMap String.toList ∧
    ∃ r t, Source.read? (Generated.script repeatedNames).toArray = some r ∧
      RouteTree.parse? (Generated.script repeatedNames) = some t ∧
      t.routes.filter (fun r => r.path = Text.ofString "/s") =
        [⟨Text.ofString "/s", Text.ofString "./c"⟩, ⟨Text.ofString "/s", Text.ofString "./b"⟩] := by
  refine ⟨by decide +kernel, ?_⟩
  have hreadable : ∀ d ∈ repeatedNames, d.Readable := Declaration.readable_of_all (by decide)
  obtain ⟨r, hread, hitems⟩ := Source.read?_script hreadable
  obtain ⟨himports, hupdates, hchildren, hentries⟩ :=
    Source.ofItems_items (Generated.script repeatedNames).toArray r
  obtain ⟨t, ht, hlist, -⟩ := parse?_isListing hread (by decide +kernel)
    (himports ▸ Table.lastWins_bindAll _) (hupdates ▸ Table.lastWins_bindAll _)
    (hchildren ▸ Table.lastWins_bindAll _) hentries
  rw [hitems] at hlist
  refine ⟨r, t, hread, ht, (hlist.exact_at _).trans ?_⟩
  decide +kernel

end RouteAtlas
