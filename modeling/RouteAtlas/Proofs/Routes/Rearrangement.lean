import RouteAtlas.Proofs.Routes.Listing
import RouteAtlas.Proofs.Script.Declaration

/-!
# The order of declarations does not matter

The pass over a script resolves nothing, so a name may be declared behind its use, and two scripts
that differ in the order of their declarations bind the same names:

- `Item.Rearranged`, `Rearranged`: the same items in another order, with the members of interfaces
  in another order too, and all of them on other lines;
- `Rearranged.perm_flatMap`: what the items declare is the same up to order (**run lemma**), since
  it is so for each item (**step lemma**);
- `ofItems_rearranged`: the tables look the same and the routes are the same list, where no table
  binds a name twice and members of one path keep their order.
-/

namespace RouteAtlas

open Script

namespace Script

/-! ## The same declarations in another order -/

/-- A member without the line that it stands on. -/
def Member.unplaced : Member → Member
  | .property _ key type comments => .property 0 key type comments
  | .other text => .other text

/-- An entry among members without the line that it stands on. -/
def Entry.unplaced : Entry Member → Entry Member
  | .part m => .part m.unplaced
  | .comment c => .comment c

/-- An item and what becomes of it when a script is rearranged: it is moved as it is, or it is an
interface and its members are shuffled. Members are moved to other lines. -/
inductive Item.Rearranged : Item → Item → Prop where
  | moved (i : Item) : Item.Rearranged i i
  | shuffled {exported : Bool} {i j : Interface} {text text' : List Char} (hname : i.name = j.name)
      (hmembers : (i.members.map Entry.unplaced).Perm (j.members.map Entry.unplaced)) :
      Item.Rearranged (.statement ⟨exported, .interface_ i⟩ text)
        (.statement ⟨exported, .interface_ j⟩ text')

/-- The items of a script in another order, each of them rearranged. -/
inductive Rearranged : List Item → List Item → Prop where
  | nil : Rearranged [] []
  | cons {i j : Item} {is js : List Item} (hi : i.Rearranged j) (h : Rearranged is js) :
      Rearranged (i :: is) (j :: js)
  | swap (i j : Item) (is : List Item) : Rearranged (i :: j :: is) (j :: i :: is)
  | trans {is js ks : List Item} (h : Rearranged is js) (h' : Rearranged js ks) : Rearranged is ks

/-- Every permutation of the items is a rearrangement. -/
theorem Rearranged.of_perm {is js : List Item} (h : is.Perm js) : Rearranged is js := by
  induction h with
  | nil => exact .nil
  | cons i _ ih => exact .cons (.moved i) ih
  | swap i j is => exact .swap j i is
  | trans _ _ ih ih' => exact ih.trans ih'

/-- Members of one path keep their order: under every path, the two scripts list the same names in
the same order. -/
def KeepsPathOrder (is js : List Item) : Prop :=
  ∀ p, (withKey PathEntry.path p (is.flatMap Item.listed)).map PathEntry.said =
    (withKey PathEntry.path p (js.flatMap Item.listed)).map PathEntry.said

/-! ## What rearranging keeps -/

/-- **Run lemma**: what is declared item by item, and up to order the same for every rearranged
item, is up to order the same for rearranged scripts. -/
theorem Rearranged.perm_flatMap {β : Type} {f : Item → List β}
    (hstep : ∀ i j, Item.Rearranged i j → (f i).Perm (f j)) {is js : List Item}
    (h : Rearranged is js) : (is.flatMap f).Perm (js.flatMap f) := by
  induction h with
  | nil => exact .refl _
  | cons hi _ ih =>
    rw [List.flatMap_cons, List.flatMap_cons]
    exact (hstep _ _ hi).append ih
  | swap i j is => exact (List.Perm.swap j i is).flatMap_right f
  | trans _ _ ih ih' => exact ih.trans ih'

theorem Item.Rearranged.imported_eq {i j : Item} (h : i.Rearranged j) :
    i.imported = j.imported := by
  cases h with
  | moved => rfl
  | shuffled => rfl

theorem Item.Rearranged.made_eq {i j : Item} (h : i.Rearranged j) (method : String) :
    i.made method = j.made method := by
  cases h with
  | moved => rfl
  | shuffled => rfl

/-- What a member says of its route does not depend on its line. -/
theorem Member.said_unplaced (m : Member) :
    m.unplaced.listed?.map PathEntry.said = m.listed?.map PathEntry.said := by
  match m with
  | .property _ (.quoted _) (some ⟨[], .typeof [] _⟩) _ => rfl
  | .property _ (.quoted _) (some ⟨[], .typeof (_ :: _) _⟩) _ => rfl
  | .property _ (.quoted _) (some ⟨[], .other⟩) _ => rfl
  | .property _ (.quoted _) (some ⟨_ :: _, _⟩) _ => rfl
  | .property _ (.quoted _) none _ => rfl
  | .property _ .other _ _ => rfl
  | .other _ => rfl

/-- What the members of an interface say of routes, by their entries without lines. -/
theorem said_listed (es : List (Entry Member)) :
    ((Entry.parts es).filterMap Member.listed?).map PathEntry.said =
      (Entry.parts (es.map Entry.unplaced)).filterMap fun m => m.listed?.map PathEntry.said := by
  have hparts : Entry.parts (es.map Entry.unplaced) = (Entry.parts es).map Member.unplaced := by
    induction es with
    | nil => rfl
    | cons e es ih =>
      cases e with
      | part m => exact congrArg (m.unplaced :: ·) ih
      | comment c => exact ih
  rw [hparts, List.filterMap_map, List.map_filterMap]
  congr 1
  funext m
  exact (Member.said_unplaced m).symm

/-- **Step lemma**: a rearranged item lists the same routes up to order. -/
theorem Item.Rearranged.perm_listed {i j : Item} (h : i.Rearranged j) :
    (i.listed.map PathEntry.said).Perm (j.listed.map PathEntry.said) := by
  cases h with
  | moved => exact .refl _
  | @shuffled _ i j _ _ hname hmembers =>
    obtain ⟨name, _, members, _⟩ := i
    obtain ⟨name', _, members', _⟩ := j
    subst hname
    by_cases hp : name = pathInterface
    · -- what members say is read off their entries without lines, and these are permuted
      simp only [Item.listed, hp, if_true, said_listed]
      exact (hmembers.filterMap _).filterMap _
    · simp [Item.listed, hp]

/-- Tables filled from rearranged scripts look the same, where no name is bound twice and every
rearranged item declares the same pairs. -/
theorem Rearranged.get?_bindAll_eq {β : Type} {f : Item → List (String × β)}
    (hstep : ∀ i j, Item.Rearranged i j → f i = f j) {is js : List Item} (h : Rearranged is js)
    (hd : ((is.flatMap f).map Prod.fst).Nodup) (n : String) :
    (Table.bindAll [] (is.flatMap f)).get? n = (Table.bindAll [] (js.flatMap f)).get? n := by
  have hp : (is.flatMap f).Perm (js.flatMap f) :=
    h.perm_flatMap fun i j hij => .of_eq (hstep i j hij)
  exact (Table.lastWins_bindAll _).get?_eq_of_perm (Table.lastWins_bindAll _) hp hd n

end Script

namespace Bindings

/-- **Declaration order does not matter.** Where no table of a script binds a name twice, a
rearranged script whose members of one path keep their order has tables that look the same, lists
the same routes up to order, and amounts to the same list of routes. Nothing is asked of the names
that declarations refer to: they may stand further down, form cycles, or be bound in several
tables. -/
theorem ofItems_rearranged {is js : List Item} (h : Rearranged is js)
    (hi : ((is.flatMap Item.imported).map Prod.fst).Nodup)
    (hu : ((is.flatMap (Item.made updateMethod)).map Prod.fst).Nodup)
    (hc : ((is.flatMap (Item.made childrenMethod)).map Prod.fst).Nodup)
    (he : KeepsPathOrder is js) :
    (∀ n, (ofItems is).imports.get? n = (ofItems js).imports.get? n) ∧
      (∀ n, (ofItems is).updates.get? n = (ofItems js).updates.get? n) ∧
      (∀ n, (ofItems is).children.get? n = (ofItems js).children.get? n) ∧
      ((ofItems is).entries.map PathEntry.said).Perm ((ofItems js).entries.map PathEntry.said) ∧
      (ofItems is).routes = (ofItems js).routes := by
  have himports : ∀ n, (ofItems is).imports.get? n = (ofItems js).imports.get? n := by
    rw [ofItems_eq, ofItems_eq]
    exact h.get?_bindAll_eq (fun _ _ hij => hij.imported_eq) hi
  have hupdates : ∀ n, (ofItems is).updates.get? n = (ofItems js).updates.get? n := by
    rw [ofItems_eq, ofItems_eq]
    exact h.get?_bindAll_eq (fun _ _ hij => hij.made_eq updateMethod) hu
  have hchildren : ∀ n, (ofItems is).children.get? n = (ofItems js).children.get? n := by
    rw [ofItems_eq, ofItems_eq]
    exact h.get?_bindAll_eq (fun _ _ hij => hij.made_eq childrenMethod) hc
  refine ⟨himports, hupdates, hchildren, ?_, routes_congr himports hupdates hchildren ?_⟩
  · rw [entries_ofItems, entries_ofItems, List.map_flatMap, List.map_flatMap]
    exact h.perm_flatMap fun _ _ hij => hij.perm_listed
  · rw [entries_ofItems, entries_ofItems]
    exact he

/-- A script whose names are declared behind their uses; one of them wraps itself and is imported
as well. -/
def useBeforeDeclaration : List Item :=
  Generated.items 1 [
    .interface_ pathInterface [(⟨'\x27', [.raw 'a']⟩, "xRoute"), (⟨'\x27', [.raw 'c']⟩, "cRoute")],
    .call "xRoute" "aRoute" updateMethod (.name "yRoute"),
    .call "cRoute" "cRoute" childrenMethod (.name "yRoute"),
    .import_ "Route" "aRoute" ⟨'\x27', [.raw 'm']⟩, .import_ "Route" "cRoute" ⟨'\x27', [.raw 'n']⟩]

/-- The same script with every name declared before its use. -/
def declarationBeforeUse : List Item :=
  Generated.items 1 [
    .import_ "Route" "cRoute" ⟨'\x27', [.raw 'n']⟩, .import_ "Route" "aRoute" ⟨'\x27', [.raw 'm']⟩,
    .call "cRoute" "cRoute" childrenMethod (.name "yRoute"),
    .call "xRoute" "aRoute" updateMethod (.name "yRoute"),
    .interface_ pathInterface [(⟨'\x27', [.raw 'c']⟩, "cRoute"), (⟨'\x27', [.raw 'a']⟩, "xRoute")]]

/-- Declaring the names first changes neither the tables nor the routes. -/
theorem ofItems_rearranged_useBeforeDeclaration :
    Rearranged useBeforeDeclaration declarationBeforeUse ∧
      (ofItems useBeforeDeclaration).routes = (ofItems declarationBeforeUse).routes := by
  have hperm : useBeforeDeclaration.Perm useBeforeDeclaration.reverse :=
    (List.reverse_perm _).symm
  have h : Rearranged useBeforeDeclaration declarationBeforeUse :=
    (Rearranged.of_perm hperm).trans
      (.cons (.moved _) (.cons (.moved _) (.cons (.moved _) (.cons (.moved _)
        (.cons (.shuffled rfl (.swap _ _ _)) .nil)))))
  have hlisted : useBeforeDeclaration.flatMap Item.listed =
      [⟨[CodePoint.ofChar 'a'], "xRoute", 2⟩, ⟨[CodePoint.ofChar 'c'], "cRoute", 3⟩] := by decide
  have hlisted' : declarationBeforeUse.flatMap Item.listed =
      [⟨[CodePoint.ofChar 'c'], "cRoute", 6⟩, ⟨[CodePoint.ofChar 'a'], "xRoute", 7⟩] := by decide
  have hkeeps : KeepsPathOrder useBeforeDeclaration declarationBeforeUse := by
    intro p
    rw [hlisted, hlisted']
    simp only [withKey_cons, withKey_nil]
    -- the two paths differ, so at most one of them is `p`
    by_cases ha : [CodePoint.ofChar 'a'] = p
    · subst ha
      decide
    · simp only [ha, if_false]
      split <;> rfl
  exact ⟨h, (ofItems_rearranged h (by decide) (by decide) (by decide) hkeeps).2.2.2.2⟩

end Bindings

end RouteAtlas
