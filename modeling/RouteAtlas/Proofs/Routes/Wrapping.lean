import Mathlib.Data.List.Forall2
import RouteAtlas.Proofs.Routes.Rearrangement

/-!
# Wrapping a route changes nothing

A variable that wraps another one stands for the same route. So new names may be wrapped around a
name, one around the other, and used in its place:

- `wrappers`: the bindings of a chain of new names around a name;
- `Unmentioned`: names that a table neither binds nor refers to;
- `unwrap_insert`, `unwrap_insert_self`: **one new name** around a name is unwrapped like it, and
  every other name as before, since the walk meets the new name at its start only
  (`follow_insert`);
- `resolve_wrappers`: the same for **a chain of new names**, by induction over it;
- `Wrapped`: a script with declarations of such a chain added anywhere, and with members that name
  the last of the chain in place of the name inside;
- `wrapping_transparent`: neither the tables nor the routes of a script see the difference.
-/

namespace RouteAtlas

/-! ## Chains of new names -/

section Tables

variable {α β : Type}

/-- The bindings of new names around `v`: the first of them wraps `v`, each other one the name
before it. -/
def wrappers (v : α) : List α → List (α × α)
  | [] => []
  | w :: ws => (w, v) :: wrappers w ws

theorem map_fst_wrappers (v : α) (ws : List α) : (wrappers v ws).map Prod.fst = ws := by
  induction ws generalizing v with
  | nil => rfl
  | cons w ws ih => exact congrArg (w :: ·) (ih w)

variable [DecidableEq α]

/-- The table binds none of the names, and none of its bindings refers to one of them. -/
structure Unmentioned (ws : List α) (wraps : Table α α) : Prop where
  not_key : ∀ w ∈ ws, wraps.get? w = none
  not_value : ∀ x, ∀ w ∈ ws, wraps.get? x ≠ some w

/-- Names that occur in no pair are unmentioned in the table of the pairs. -/
theorem Unmentioned.of_forall_mem {ws : List α} {ps : List (α × α)}
    (h : ∀ p ∈ ps, p.1 ∉ ws ∧ p.2 ∉ ws) : Unmentioned ws (Table.bindAll [] ps) := by
  have hmem : ∀ {x y : α}, (Table.bindAll [] ps).get? x = some y → (x, y) ∈ ps := by
    intro x y hxy
    exact Table.mem_of_get?_bindAll hxy (by simp)
  constructor
  · intro w hw
    refine Option.eq_none_iff_forall_ne_some.mpr fun y hy => ?_
    exact (h _ (hmem hy)).1 hw
  · intro x w hw hx
    exact (h _ (hmem hx)).2 hw

/-- Where a new name is bound, the others stay unmentioned. -/
theorem Unmentioned.insert {w v : α} {ws : List α} {wraps : Table α α}
    (h : Unmentioned (w :: ws) wraps) (hw : w ∉ ws) (hv : v ∉ ws) :
    Unmentioned ws (wraps.insert w v) := by
  constructor
  · intro w' hw'
    have hne : w ≠ w' := fun he => hw (he ▸ hw')
    rw [Table.get?_insert, if_neg hne]
    exact h.not_key w' (.tail _ hw')
  · intro x w' hw'
    rw [Table.get?_insert]
    split
    · exact fun he => hv (Option.some.inj he ▸ hw')
    · exact h.not_value x w' (.tail _ hw')

/-! ## One new name -/

section Insert

variable {wraps : Table α α} {w : α} (v : α)

/-- A walk that starts at another name never comes to the new one, so it goes as before, whether
the new name counts as met or not. -/
theorem follow_insert (hvalue : ∀ x, wraps.get? x ≠ some w) :
    ∀ (n : Nat) {seen seen' : List α} {x : α}, x ≠ w → (∀ y, y ≠ w → (y ∈ seen ↔ y ∈ seen')) →
      follow (wraps.insert w v) n seen x = follow wraps n seen' x
  | 0, _, _, _, _, _ => rfl
  | n + 1, seen, seen', x, hx, hseen => by
    rw [follow, follow, Table.get?_insert, if_neg (Ne.symm hx)]
    cases hinner : wraps.get? x with
    | none => rfl
    | some inner =>
      have hne : inner ≠ w := fun he => hvalue x (he ▸ hinner)
      have hseen' : ∀ y, y ≠ w → (y ∈ x :: seen ↔ y ∈ x :: seen') := by
        intro y hy
        rw [List.mem_cons, List.mem_cons, hseen y hy]
      show (if x ∈ seen then x else follow (wraps.insert w v) n (x :: seen) inner) =
        if x ∈ seen' then x else follow wraps n (x :: seen') inner
      rw [follow_insert hvalue n hne hseen']
      by_cases hmet : x ∈ seen
      · rw [if_pos hmet, if_pos ((hseen x hx).mp hmet)]
      · rw [if_neg hmet, if_neg fun hmet' => hmet ((hseen x hx).mpr hmet')]

/-- Every other name is unwrapped as before. -/
theorem unwrap_insert (hvalue : ∀ x, wraps.get? x ≠ some w) {x : α} (hx : x ≠ w) :
    unwrap (wraps.insert w v) x = unwrap wraps x := by
  let n := (wraps.insert w v).length + wraps.length + 1
  calc unwrap (wraps.insert w v) x
      = follow (wraps.insert w v) n [] x := unwrap_eq_follow (by omega) x
    _ = follow wraps n [] x := follow_insert v hvalue n hx fun _ _ => Iff.rfl
    _ = unwrap wraps x := (unwrap_eq_follow (by omega) x).symm

/-- The new name is unwrapped like the name that it wraps. -/
theorem unwrap_insert_self (hvalue : ∀ x, wraps.get? x ≠ some w) (hv : v ≠ w) :
    unwrap (wraps.insert w v) w = unwrap wraps v := by
  let n := (wraps.insert w v).length + wraps.length + 1
  -- the first step leads to the name inside, and the new name is not met again
  have hstep : follow (wraps.insert w v) (n + 1) [] w = follow (wraps.insert w v) n [w] v := by
    rw [follow, Table.get?_insert, if_pos rfl]
    exact if_neg List.not_mem_nil
  have hseen : ∀ y, y ≠ w → (y ∈ [w] ↔ y ∈ ([] : List α)) := by
    intro y hy
    simp [hy]
  calc unwrap (wraps.insert w v) w
      = follow (wraps.insert w v) (n + 1) [] w := unwrap_eq_follow (by omega) w
    _ = follow (wraps.insert w v) n [w] v := hstep
    _ = follow wraps n [] v := follow_insert v hvalue n hv hseen
    _ = unwrap wraps v := (unwrap_eq_follow (by omega) v).symm

end Insert

/-- **A chain of new names** around `v`: each of them is unwrapped like `v`, and every other name as
before. -/
theorem unwrap_wrappers {ws : List α} {v : α} {wraps : Table α α} (hd : ws.Nodup) (hv : v ∉ ws)
    (h : Unmentioned ws wraps) :
    (∀ w ∈ ws, unwrap (wraps.bindAll (wrappers v ws)) w = unwrap wraps v) ∧
      ∀ x, x ∉ ws → unwrap (wraps.bindAll (wrappers v ws)) x = unwrap wraps x := by
  induction ws generalizing v wraps with
  | nil => exact ⟨fun _ hw => absurd hw List.not_mem_nil, fun _ _ => rfl⟩
  | cons w ws ih =>
    obtain ⟨hw, hd⟩ := List.nodup_cons.mp hd
    obtain ⟨hvw, hv⟩ : v ≠ w ∧ v ∉ ws := by simpa using hv
    have hvalue : ∀ x, wraps.get? x ≠ some w := fun x => h.not_value x w (.head _)
    obtain ⟨hnew, hold⟩ := ih hd hw (h.insert hw hv)
    -- the rest of the chain is built around `w`, which itself stands for `v`
    have hself := unwrap_insert_self v hvalue hvw
    constructor
    · intro w' hw'
      rcases List.mem_cons.mp hw' with rfl | hw'
      · exact (hold w' hw).trans hself
      · exact (hnew w' hw').trans hself
    · intro x hx
      obtain ⟨hxw, hx⟩ : x ≠ w ∧ x ∉ ws := by simpa using hx
      exact (hold x hx).trans (unwrap_insert v hvalue hxw)

theorem resolve_wrappers {ws : List α} {v : α} {wraps : Table α α} (hd : ws.Nodup) (hv : v ∉ ws)
    (h : Unmentioned ws wraps) (makes : Table α α) (imports : Table α β) :
    (∀ w ∈ ws, resolve (wraps.bindAll (wrappers v ws)) makes imports w =
        resolve wraps makes imports v) ∧
      ∀ x, x ∉ ws → resolve (wraps.bindAll (wrappers v ws)) makes imports x =
        resolve wraps makes imports x := by
  obtain ⟨hnew, hold⟩ := unwrap_wrappers hd hv h
  constructor
  · intro w hw
    simp only [resolve, hnew w hw]
  · intro x hx
    simp only [resolve, hold x hx]

end Tables

open Script

/-! ## Scripts with new names -/

/-- An entry and what becomes of it where `w` is written for `v`. -/
structure PathEntry.Renamed (v w : String) (e e' : PathEntry) : Prop where
  path : e'.path = e.path
  name : e'.name = e.name ∨ e.name = v ∧ e'.name = w

namespace Script

/-- A declarator that makes the first name a wrapper of the second, with any annotation, arguments
and comments. -/
structure Declarator.Wraps (p : String × String) (d : Declarator) : Prop where
  target : d.target = .name p.1
  value : ∃ comments arguments, d.value = some (.call p.2 childrenMethod comments arguments)

/-- A statement that declares wrappers, and nothing else. -/
inductive Item.Wraps : List (String × String) → Item → Prop where
  | declaration {ps : List (String × String)} {exported lexical : Bool}
      {ds : List (Entry Declarator)} {text : List Char}
      (h : List.Forall₂ Declarator.Wraps ps (Entry.parts ds)) :
      Item.Wraps ps (.statement ⟨exported, .variables lexical ds⟩ text)

/-- A member and what becomes of it where `w` is written for `v`: it is left as it is, or its type
`typeof v` becomes `typeof w`. It may be moved to another line. -/
inductive Member.Renamed (v w : String) : Member → Member → Prop where
  | kept {m m' : Member} (h : m.unplaced = m'.unplaced) : Member.Renamed v w m m'
  | renamed (line line' : Nat) (key : Key) (leading inner comments : List Comment) :
      Member.Renamed v w (.property line key (some ⟨leading, .typeof inner v⟩) comments)
        (.property line' key (some ⟨leading, .typeof inner w⟩) comments)

/-- An item and what becomes of it where `w` is written for `v` in any members of interfaces. -/
inductive Item.Renamed (v w : String) : Item → Item → Prop where
  | kept (i : Item) : Item.Renamed v w i i
  | members {exported : Bool} {i j : Interface} {text text' : List Char} (hname : i.name = j.name)
      (h : List.Forall₂ (Member.Renamed v w) (Entry.parts i.members) (Entry.parts j.members)) :
      Item.Renamed v w (.statement ⟨exported, .interface_ i⟩ text)
        (.statement ⟨exported, .interface_ j⟩ text')

/-- The items of a script with declarations of the wrappers `ps` added anywhere among them, and with
`w` written for `v` in any members. -/
inductive Wrapped (v w : String) : List (String × String) → List Item → List Item → Prop where
  | nil : Wrapped v w [] [] []
  | keep {ps : List (String × String)} {i j : Item} {is js : List Item} (hi : i.Renamed v w j)
      (h : Wrapped v w ps is js) : Wrapped v w ps (i :: is) (j :: js)
  | add {qs ps : List (String × String)} {d : Item} {is js : List Item} (hd : d.Wraps qs)
      (h : Wrapped v w ps is js) : Wrapped v w (qs ++ ps) is (d :: js)

/-! ## What one item declares -/

theorem Declarator.Wraps.made_eq {p : String × String} {d : Declarator} (h : d.Wraps p) :
    d.made updateMethod = [] ∧ d.made childrenMethod = [p] := by
  obtain ⟨target, _, value, _, _⟩ := d
  obtain ⟨rfl, comments, arguments, rfl⟩ := h
  have hne : childrenMethod ≠ updateMethod := by decide
  constructor
  · rw [Declarator.made, if_neg hne]
  · rw [Declarator.made, if_pos rfl]

theorem made_of_wraps {ps : List (String × String)} {ds : List Declarator}
    (h : List.Forall₂ Declarator.Wraps ps ds) :
    ds.flatMap (Declarator.made updateMethod) = [] ∧
      ds.flatMap (Declarator.made childrenMethod) = ps := by
  induction h with
  | nil => exact ⟨rfl, rfl⟩
  | cons hp _ ih =>
    rw [List.flatMap_cons, List.flatMap_cons, hp.made_eq.1, hp.made_eq.2, ih.1, ih.2]
    exact ⟨rfl, rfl⟩

/-- A declaration of wrappers makes these, and declares nothing else. -/
theorem Item.Wraps.declares {ps : List (String × String)} {d : Item} (h : d.Wraps ps) :
    d.imported = [] ∧ d.made updateMethod = [] ∧ d.made childrenMethod = ps ∧ d.listed = [] := by
  cases h with
  | declaration h =>
    obtain ⟨hupdate, hchildren⟩ := made_of_wraps h
    exact ⟨rfl, hupdate, hchildren, rfl⟩

/-- A generated call of `_addFileChildren` declares a wrapper. -/
theorem wraps_call (line : Nat) (name object : String) (a : Argument) :
    ((Declaration.call name object childrenMethod a).item line).Wraps [(name, object)] :=
  .declaration (.cons ⟨rfl, _, _, rfl⟩ .nil)

theorem Item.Renamed.imported_eq {v w : String} {i j : Item} (h : i.Renamed v w j) :
    j.imported = i.imported := by
  cases h with
  | kept => rfl
  | members => rfl

theorem Item.Renamed.made_eq {v w : String} {i j : Item} (h : i.Renamed v w j) (method : String) :
    j.made method = i.made method := by
  cases h with
  | kept => rfl
  | members => rfl

theorem Member.Renamed.listed? {v w : String} {m m' : Member} (h : m.Renamed v w m') :
    Option.Rel (PathEntry.Renamed v w) m.listed? m'.listed? := by
  cases h with
  | kept h =>
    -- what the two members say is the same, so at most their lines differ
    have hsaid : m.listed?.map PathEntry.said = m'.listed?.map PathEntry.said := by
      rw [← Member.said_unplaced m, h, Member.said_unplaced]
    cases he : m.listed? with
    | none =>
      rw [he] at hsaid
      rw [Option.map_eq_none_iff.mp hsaid.symm]
      exact .none
    | some e =>
      rw [he] at hsaid
      obtain ⟨e', he', hee'⟩ := Option.map_eq_some_iff.mp hsaid.symm
      rw [he']
      exact .some ⟨congrArg Prod.fst hee', .inl (congrArg Prod.snd hee')⟩
  | renamed line line' key leading inner comments =>
    match key, leading, inner with
    | .quoted l, [], [] => exact .some ⟨rfl, .inr ⟨rfl, rfl⟩⟩
    | .quoted _, [], _ :: _ => exact .none
    | .quoted _, _ :: _, _ => exact .none
    | .other, _, _ => exact .none

/-- **Step lemma**: an item lists the same routes, with `w` for `v` in some of them. -/
theorem Item.Renamed.listed {v w : String} {i j : Item} (h : i.Renamed v w j) :
    List.Forall₂ (PathEntry.Renamed v w) i.listed j.listed := by
  cases h with
  | kept i => exact List.forall₂_same.mpr fun _ _ => ⟨rfl, .inl rfl⟩
  | @members _ i j _ _ hname h =>
    obtain ⟨name, _, members, _⟩ := i
    obtain ⟨name', _, members', _⟩ := j
    subst hname
    by_cases hp : name = pathInterface
    · simp only [Item.listed, hp, if_true]
      exact List.rel_filterMap (fun _ _ hm => hm.listed?) h
    · simp only [Item.listed, hp, if_false]
      exact .nil

/-! ## What a script declares -/

section Run

variable {v w : String} {ps : List (String × String)} {is js : List Item}

/-- **Run lemma**: what kept items declare alike and declarations of wrappers do not declare is
declared alike by the whole script. -/
theorem Wrapped.flatMap_eq {β : Type} {f : Item → List β}
    (hkeep : ∀ i j, Item.Renamed v w i j → f j = f i) (hadd : ∀ qs d, Item.Wraps qs d → f d = [])
    (h : Wrapped v w ps is js) : js.flatMap f = is.flatMap f := by
  induction h with
  | nil => rfl
  | keep hi _ ih => rw [List.flatMap_cons, List.flatMap_cons, hkeep _ _ hi, ih]
  | add hd _ ih => rw [List.flatMap_cons, hadd _ _ hd, ih, List.nil_append]

/-- **Run lemma**: the script lists the same routes, with `w` for `v` in some of them. -/
theorem Wrapped.listed (h : Wrapped v w ps is js) :
    List.Forall₂ (PathEntry.Renamed v w) (is.flatMap Item.listed) (js.flatMap Item.listed) := by
  induction h with
  | nil => exact .nil
  | keep hi _ ih => exact List.rel_append hi.listed ih
  | add hd _ ih =>
    rw [List.flatMap_cons, hd.declares.2.2.2]
    exact ih

/-- **Run lemma**: a name is a wrapper of what the added declarations say, else of what the script
said before. The added declarations may stand anywhere, since no name is declared on both sides. -/
theorem Wrapped.lookup_made (h : Wrapped v w ps is js) {x : String}
    (hx : ps.reverse.lookup x = none ∨
      (is.flatMap (Item.made childrenMethod)).reverse.lookup x = none) :
    (js.flatMap (Item.made childrenMethod)).reverse.lookup x =
      (ps.reverse.lookup x).or ((is.flatMap (Item.made childrenMethod)).reverse.lookup x) := by
  induction h with
  | nil => rfl
  | keep hi _ ih =>
    simp only [List.flatMap_cons, List.reverse_append, List.lookup_append, hi.made_eq,
      Option.or_eq_none_iff] at hx ⊢
    rw [ih (hx.imp_right And.left), Option.or_assoc]
  | add hd _ ih =>
    simp only [List.flatMap_cons, List.reverse_append, List.lookup_append, hd.declares.2.2.1,
      Option.or_eq_none_iff] at hx ⊢
    rw [ih (hx.imp_left And.left), Option.or_assoc, Option.or_assoc]
    -- the new pairs move in front of the old ones, and at `x` one of the two is silent
    congr 1
    rcases hx with ⟨-, hx⟩ | hx
    · rw [hx, Option.or_none, Option.none_or]
    · rw [hx, Option.or_none, Option.none_or]

end Run

end Script

namespace PathEntry

/-- Entries amount to the same routes where `w` comes from the module of `v`, and every other name
that they mention from the same module as before. -/
theorem filterMap_route?_renamed {v w : String} {es fs : List PathEntry}
    (h : List.Forall₂ (PathEntry.Renamed v w) es fs) {moduleOf moduleOf' : String → Option Text}
    (hw : moduleOf' w = moduleOf v) (hm : ∀ e ∈ es, moduleOf' e.name = moduleOf e.name) :
    fs.filterMap (route? moduleOf') = es.filterMap (route? moduleOf) := by
  induction h with
  | nil => rfl
  | @cons e f es fs hef _ ih =>
    have hmodule : moduleOf' f.name = moduleOf e.name := by
      rcases hef.name with hname | ⟨hv, hname⟩
      · rw [hname, hm e (.head _)]
      · rw [hname, hv, hw]
    have hroute : f.route? moduleOf' = e.route? moduleOf := by
      rw [route?, route?, hmodule, hef.path]
    rw [List.filterMap_cons, List.filterMap_cons, hroute, ih fun e he => hm e (.tail _ he)]

end PathEntry

namespace Bindings

/-- The table of wrappers looks as if the added ones had been bound last. -/
theorem get?_children_wrapped {v w : String} {ws : List String} {ps : List (String × String)}
    {is js : List Item} (hd : ws.Nodup) (hfree : ∀ w ∈ ws, (ofItems is).children.get? w = none)
    (hps : ps.Perm (wrappers v ws)) (h : Wrapped v w ps is js) (x : String) :
    (ofItems js).children.get? x = ((ofItems is).children.bindAll (wrappers v ws)).get? x := by
  have hfst : (ps.map Prod.fst).Perm ws := by
    rw [← map_fst_wrappers v ws]
    exact hps.map Prod.fst
  rw [Table.get?_bindAll, ← Table.lookup_reverse_perm hps (hfst.nodup_iff.mpr hd)]
  rw [ofItems_eq] at hfree ⊢
  rw [ofItems_eq, Table.lastWins_bindAll, Table.lastWins_bindAll]
  refine h.lookup_made ?_
  by_cases hx : x ∈ ws
  · right
    rw [← Table.lastWins_bindAll]
    exact hfree x hx
  · left
    rw [List.lookup_eq_none_iff]
    intro p hp
    have hmem : p.1 ∈ ws := hfst.subset (List.mem_map_of_mem (List.mem_reverse.mp hp))
    simpa using fun he : x = p.1 => hx (he ▸ hmem)

/-- **Wrapping is transparent.** Let `ws` be new names around `v`, each the wrapper of the one
before: pairwise different, other than `v`, and neither bound nor referred to in the table of
wrappers. Under any tables, cycles included, each of them resolves like `v`, and every other name as
before. And a script to which their declarations are added, in any order and anywhere, and which
writes the last of them for `v` in any of its members, amounts to the same routes, if none of its
members named one of them before. The new names may be made by `update` or imported as well. -/
theorem wrapping_transparent {v : String} {ws : List String} (hd : ws.Nodup) (hv : v ∉ ws) :
    (∀ (children updates : Table String String) (imports : Table String Text),
      Unmentioned ws children →
        (∀ w ∈ ws, resolve (children.bindAll (wrappers v ws)) updates imports w =
            resolve children updates imports v) ∧
          ∀ x, x ∉ ws → resolve (children.bindAll (wrappers v ws)) updates imports x =
            resolve children updates imports x) ∧
      ∀ (is js : List Item) (ps : List (String × String)),
        Unmentioned ws (ofItems is).children → (∀ e ∈ (ofItems is).entries, e.name ∉ ws) →
          ps.Perm (wrappers v ws) → Wrapped v (ws.getLastD v) ps is js →
            (ofItems js).routes = (ofItems is).routes := by
  refine ⟨fun children updates imports h => resolve_wrappers hd hv h updates imports, ?_⟩
  intro is js ps hnew hentries hps h
  have himports : (ofItems js).imports = (ofItems is).imports := by
    simp only [ofItems_eq]
    rw [h.flatMap_eq (fun _ _ hi => hi.imported_eq) fun _ _ hd => hd.declares.1]
  have hupdates : (ofItems js).updates = (ofItems is).updates := by
    simp only [ofItems_eq]
    rw [h.flatMap_eq (fun _ _ hi => hi.made_eq updateMethod) fun _ _ hd => hd.declares.2.1]
  have hmodule : ∀ x, (ofItems js).moduleOfName? x =
      resolve ((ofItems is).children.bindAll (wrappers v ws)) (ofItems is).updates
        (ofItems is).imports x := by
    intro x
    rw [moduleOfName?, himports, hupdates]
    exact resolve_congr (get?_children_wrapped hd hnew.not_key hps h) (fun _ => rfl)
      (fun _ => rfl) x
  obtain ⟨hwrapper, hother⟩ := resolve_wrappers hd hv hnew (ofItems is).updates (ofItems is).imports
  have hlast : (ofItems js).moduleOfName? (ws.getLastD v) = (ofItems is).moduleOfName? v := by
    rw [hmodule]
    -- a chain without names ends at `v` itself
    have hmem : ws.getLastD v ∈ v :: ws := List.getLastD_mem_cons
    rcases List.mem_cons.mp hmem with hlast | hlast
    · rw [hlast]
      exact hother v hv
    · exact hwrapper _ hlast
  have hfilter : (ofItems js).entries.filterMap (PathEntry.route? (ofItems js).moduleOfName?) =
      (ofItems is).entries.filterMap (PathEntry.route? (ofItems is).moduleOfName?) := by
    refine PathEntry.filterMap_route?_renamed ?_ hlast ?_
    · rw [entries_ofItems, entries_ofItems]
      exact h.listed
    · intro e he
      exact (hmodule e.name).trans (hother e.name (hentries e he))
  exact congrArg (List.mergeSort · (keyLe Route.path)) hfilter

/-- A script in which one name wraps itself; two others are imported and made by `update`, and
nothing wraps them. -/
def selfWrapped : List Item :=
  Generated.items 1 [
    .import_ "Route" "aRoute" ⟨'\x27', [.raw 'm']⟩, .import_ "Route" "cRoute" ⟨'\x27', [.raw 'n']⟩,
    .call "cRoute" "cRoute" childrenMethod (.name "zRoute"),
    .call "xRoute" "aRoute" updateMethod (.name "zRoute"),
    .call "yRoute" "aRoute" updateMethod (.name "zRoute"),
    .interface_ pathInterface [(⟨'\x27', [.raw 'c']⟩, "cRoute"), (⟨'\x27', [.raw 'x']⟩, "xRoute")]]

/-- The same script with the two other names wrapped around the first, the outer one declared at
the top, the inner one at the bottom. -/
def selfWrappedTwiceMore : List Item :=
  Generated.items 1 [
    .call "yRoute" "aRoute" childrenMethod (.name "zRoute"),
    .import_ "Route" "aRoute" ⟨'\x27', [.raw 'm']⟩, .import_ "Route" "cRoute" ⟨'\x27', [.raw 'n']⟩,
    .call "cRoute" "cRoute" childrenMethod (.name "zRoute"),
    .call "xRoute" "aRoute" updateMethod (.name "zRoute"),
    .call "yRoute" "aRoute" updateMethod (.name "zRoute"),
    .interface_ pathInterface [(⟨'\x27', [.raw 'c']⟩, "yRoute"), (⟨'\x27', [.raw 'x']⟩, "xRoute")],
    .call "aRoute" "cRoute" childrenMethod (.name "zRoute")]

/-- The wrapper of a wrapper of a name that wraps itself resolves like that name, though it is made
by `update` from an imported name. -/
theorem wrapping_transparent_selfWrapped :
    (ofItems selfWrappedTwiceMore).moduleOfName? "yRoute" = some (Text.ofString "n") ∧
      (ofItems selfWrappedTwiceMore).routes = (ofItems selfWrapped).routes := by
  have hnew : Unmentioned ["aRoute", "yRoute"] (ofItems selfWrapped).children := by
    rw [ofItems_eq]
    exact .of_forall_mem (by decide)
  have hwrapped : Wrapped "cRoute" "yRoute" [("yRoute", "aRoute"), ("aRoute", "cRoute")]
      selfWrapped selfWrappedTwiceMore := by
    refine .add (wraps_call 1 "yRoute" "aRoute" _) ?_
    refine .keep (.kept _) (.keep (.kept _) (.keep (.kept _) (.keep (.kept _) (.keep (.kept _) ?_))))
    refine .keep (.members rfl (.cons (.renamed _ _ _ _ _ _) (.cons (.kept rfl) .nil))) ?_
    exact .add (wraps_call _ "aRoute" "cRoute" _) .nil
  refine ⟨by decide, ?_⟩
  exact (wrapping_transparent (by decide) (by decide)).2 selfWrapped selfWrappedTwiceMore _ hnew
    (by decide) (.swap _ _ _) hwrapped

end Bindings

end RouteAtlas
