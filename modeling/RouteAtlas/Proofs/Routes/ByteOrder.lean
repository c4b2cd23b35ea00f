import Mathlib.Order.Lattice
import RouteAtlas.Proofs.Routes.Listing
import RouteAtlas.Proofs.Script.Generated
import RouteAtlas.Proofs.Text.Scalar
import RouteAtlas.Proofs.Text.Utf8

/-!
# The order of code points is the order of bytes

UTF-8 was made so that texts can be compared without being decoded. Routes are sorted by the code
points of their paths, and so they are sorted by the bytes of these paths too:

- `Utf8.encodePoint_append_lt`: **one character** decides the order of bytes as it decides that of
  code points, whatever follows it;
- `Utf8.strictMono_flatMap_encodePoint`: the same for **whole texts**, by induction up to the first
  place where they differ;
- `IsStableSort`: a list sorted by a key, with the elements of one key in their former order;
- `routes_in_byteOrder`: the routes of a script are its declarations, stably sorted by bytes.
-/

namespace RouteAtlas

open Script

/-! ## The bytes of characters and of texts -/

namespace Utf8

/-- **The greater of two characters has the greater bytes**, whatever follows either of them. -/
theorem encodePoint_append_lt {m n : Nat} (h : m < n) (x y : List Nat) :
    encodePoint m ++ x < encodePoint n ++ y := by
  unfold encodePoint
  -- the lead byte decides between characters of two lengths; where the lengths are the same, the
  -- bytes are the digits of the two numbers, and the first that differ decide
  split_ifs <;> simp only [List.cons_append, List.nil_append, List.cons_lt_cons_iff] <;> omega

theorem encodePoint_ne_nil (n : Nat) : encodePoint n ≠ [] := by
  unfold encodePoint
  split_ifs <;> exact List.cons_ne_nil _ _

/-- **The greater of two texts has the greater bytes.** -/
theorem strictMono_flatMap_encodePoint :
    StrictMono fun ns : List Nat => ns.flatMap encodePoint := by
  intro ms ns h
  induction h with
  | @nil n ns =>
    obtain ⟨b, r, hb⟩ := List.exists_cons_of_ne_nil
      (List.append_ne_nil_of_left_ne_nil (encodePoint_ne_nil n) (ns.flatMap encodePoint))
    show [] < encodePoint n ++ ns.flatMap encodePoint
    rw [hb]
    exact List.nil_lt_cons b r
  | rel hlt => exact encodePoint_append_lt hlt _ _
  | cons _ ih => exact List.Lex.append_left _ ih _

theorem encode_eq_flatMap (cs : List Char) :
    encode cs = (cs.map Char.toNat).flatMap encodePoint := by
  rw [encode, List.flatMap_map]

/-- Bytes are less exactly where code points are. -/
theorem encode_lt_iff {cs ds : List Char} :
    encode cs < encode ds ↔ cs.map Char.toNat < ds.map Char.toNat := by
  rw [encode_eq_flatMap, encode_eq_flatMap]
  exact strictMono_flatMap_encodePoint.lt_iff_lt

/-- Different texts have different bytes. -/
theorem encode_inj {cs ds : List Char} :
    encode cs = encode ds ↔ cs.map Char.toNat = ds.map Char.toNat := by
  rw [encode_eq_flatMap, encode_eq_flatMap]
  exact strictMono_flatMap_encodePoint.injective.eq_iff

end Utf8

namespace Text

/-- The bytes of a text without surrogates. -/
def utf8 (t : Text) : List Nat := Utf8.encode t.toChars

/-- The characters of a text without surrogates have its code points. -/
theorem Scalar.map_toNat_toChars {t : Text} (h : t.Scalar) : t.toChars.map Char.toNat = t.vals := by
  rw [toChars, List.map_map, vals]
  refine List.map_congr_left fun p hp => ?_
  have hp := h p hp
  have hval : (Char.ofNat p.val).toNat = p.val := by
    refine Utf8.toNat_ofNat ?_
    have hlt := p.isLt
    simp only [CodePoint.isSurrogate, Bool.and_eq_false_iff, decide_eq_false_iff_not] at hp
    omega
  show ((p.toChar?).getD (Char.ofNat 0xFFFD)).toNat = p.val
  rw [CodePoint.toChar?, hp, if_neg Bool.false_ne_true]
  exact hval

theorem Scalar.utf8_le_iff {s t : Text} (hs : s.Scalar) (ht : t.Scalar) :
    s.utf8 ≤ t.utf8 ↔ s.le t = true := by
  rw [le_iff, ← not_lt, ← not_lt, utf8, utf8, Utf8.encode_lt_iff, hs.map_toNat_toChars,
    ht.map_toNat_toChars]

theorem Scalar.utf8_inj {s t : Text} (hs : s.Scalar) (ht : t.Scalar) :
    s.utf8 = t.utf8 ↔ s = t := by
  rw [utf8, utf8, Utf8.encode_inj, hs.map_toNat_toChars, ht.map_toNat_toChars]
  exact ⟨vals_injective, congrArg vals⟩

end Text

/-! ## Routes sorted by bytes -/

/-- The list `m` is `l` stably sorted by a key: no element has a key before that of an earlier one,
and the elements of one key are those of `l`, in their order and with their multiplicity. -/
structure IsStableSort {α κ : Type} [LE κ] [DecidableEq κ] (key : α → κ) (l m : List α) : Prop where
  sorted : m.Pairwise fun a b => key a ≤ key b
  exact_at : ∀ k, m.filter (fun a => key a = k) = l.filter fun a => key a = k

/-- Where no path holds a surrogate, routes that are stably sorted by code points are stably sorted
by bytes. -/
theorem isStableSort_utf8 {rs ss : List Route} (hscalar : ∀ r ∈ rs, r.path.Scalar)
    (hsorted : SortedBy Route.path ss)
    (hkept : ∀ p, withKey Route.path p ss = withKey Route.path p rs) :
    IsStableSort (fun r => r.path.utf8) rs ss := by
  -- no route is new: it is among those of its own path
  have hmem : ∀ r ∈ ss, r ∈ rs := by
    intro r hr
    have hr' : r ∈ withKey Route.path r.path rs := by
      rw [← hkept]
      exact (mem_withKey _).mpr ⟨hr, rfl⟩
    exact ((mem_withKey _).mp hr').1
  constructor
  · refine hsorted.imp_of_mem fun {r s} hr hs hle => ?_
    exact ((hscalar r (hmem r hr)).utf8_le_iff (hscalar s (hmem s hs))).mpr hle
  · intro bytes
    by_cases hbytes : ∃ r ∈ rs, r.path.utf8 = bytes
    · -- the bytes are those of one path
      obtain ⟨r, hr, rfl⟩ := hbytes
      have hpath : ∀ s ∈ rs, (s.path.utf8 = r.path.utf8) = (s.path = r.path) :=
        fun s hs => propext ((hscalar s hs).utf8_inj (hscalar r hr))
      calc ss.filter (fun s => s.path.utf8 = r.path.utf8)
          = withKey Route.path r.path ss :=
            List.filter_congr fun s hs => by rw [decide_eq_decide, hpath s (hmem s hs)]
        _ = withKey Route.path r.path rs := hkept r.path
        _ = rs.filter fun s => s.path.utf8 = r.path.utf8 :=
            List.filter_congr fun s hs => by rw [decide_eq_decide, hpath s hs]
    · have hnone : ∀ r ∈ rs, ¬decide (r.path.utf8 = bytes) = true :=
        fun r hr h => hbytes ⟨r, hr, of_decide_eq_true h⟩
      rw [List.filter_eq_nil_iff.mpr hnone,
        List.filter_eq_nil_iff.mpr fun r hr => hnone r (hmem r hr)]

/-- **The order of code points is that of bytes, and routes are sorted by either.** Two texts of
Unicode scalar values compare by their code points as they compare by their bytes. So an accepted
script that declares no route with a surrogate in its path has as its routes those that it declares,
stably sorted by the bytes of their paths. -/
theorem routes_in_byteOrder :
    (∀ cs ds : List Char,
      (cs.map Char.toNat < ds.map Char.toNat ↔ Utf8.encode cs < Utf8.encode ds) ∧
      (cs.map Char.toNat = ds.map Char.toNat ↔ Utf8.encode cs = Utf8.encode ds) ∧
      (cs.map Char.toNat > ds.map Char.toNat ↔ Utf8.encode cs > Utf8.encode ds)) ∧
    ∀ (source : List Char) (items : List Item), Script.parse? source = some items →
      let declared := (items.flatMap Item.listed).filterMap
        (PathEntry.route? (Bindings.ofItems items).moduleOfName?)
      (∀ r ∈ declared, r.path.Scalar) →
      ∃ tree, RouteTree.parse? source = some tree ∧
        IsStableSort (fun r => r.path.utf8) declared tree.routes := by
  refine ⟨fun cs ds => ⟨Utf8.encode_lt_iff.symm, Utf8.encode_inj.symm, Utf8.encode_lt_iff.symm⟩, ?_⟩
  intro source items hitems declared hscalar
  refine ⟨_, RouteTree.parse?_of_items hitems, ?_⟩
  have hlist := Bindings.isListing_routes (.ofItems items)
  rw [Bindings.entries_ofItems] at hlist
  refine isStableSort_utf8 hscalar hlist.sortedBy fun p => ?_
  exact (hlist.exact_at p).trans (PathEntry.withKey_route? _ p _).symm

/-- A script that lists a path twice, and before it one that is greater by code points and by
bytes, but not by the units of UTF-16. -/
def astralPath : List Char :=
  ["import \x7b R as A \x7d from \x27./a\x27;\n", "import \x7b R as B \x7d from \x27./b\x27\n",
    "export interface FileRoutesByFullPath \x7b\n", "  \x27/😀\x27: typeof A\n",
    "  \x27/～\x27: typeof B\n", "  \x27/～\x27: typeof A\n", "\x7d\n"].flatMap String.toList

/-- Its declarations. -/
def astralDeclarations : List Declaration :=
  [.import_ "R" "A" ⟨'\x27', "./a".toList.map .raw⟩ true,
    .import_ "R" "B" ⟨'\x27', "./b".toList.map .raw⟩,
    .interface_ pathInterface [(⟨'\x27', "/😀".toList.map .raw⟩, "A"),
      (⟨'\x27', "/～".toList.map .raw⟩, "B"), (⟨'\x27', "/～".toList.map .raw⟩, "A")]]

/-- The routes of the lesser path come first, in the order of the script. -/
theorem routes_in_byteOrder_astralPath :
    ∃ tree, RouteTree.parse? astralPath = some tree ∧
      (tree.routes.Pairwise fun r s => r.path.utf8 ≤ s.path.utf8) ∧
      tree.routes.filter (fun r => r.path.utf8 = [0x2F, 0xEF, 0xBD, 0x9E]) =
        [⟨Text.ofString "/～", Text.ofString "./b"⟩, ⟨Text.ofString "/～", Text.ofString "./a"⟩] := by
  have htext : Generated.script astralDeclarations = astralPath := by decide +kernel
  have hitems : Script.parse? astralPath = some (Generated.items 1 astralDeclarations) :=
    htext ▸ parse?_script (Declaration.readable_of_all (by decide)) (by decide +kernel)
  have hscalar : ∀ r ∈ ((Generated.items 1 astralDeclarations).flatMap Item.listed).filterMap
      (PathEntry.route? (Bindings.ofItems (Generated.items 1 astralDeclarations)).moduleOfName?),
      r.path.Scalar := by
    unfold Text.Scalar
    decide +kernel
  obtain ⟨tree, htree, hsorted⟩ := routes_in_byteOrder.2 astralPath _ hitems hscalar
  refine ⟨tree, htree, hsorted.sorted, (hsorted.exact_at _).trans ?_⟩
  decide +kernel

end RouteAtlas
