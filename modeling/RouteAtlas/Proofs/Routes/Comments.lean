import RouteAtlas.Proofs.Script.Build

/-!
# Comments are harmless, except in one place

A comment may be inserted between any two parts of any phrase of a script, and anywhere at its top
level. The script binds the same names, and lists the same routes in the same order, but for one
loss: a member of the path interface whose type is hidden by a comment lists nothing.

- `Source.pathMembers`: the members of the path interface, in order;
- `ofItems_commented`: what a script with comments inserted binds, in terms of what it bound before.

At the end stands a script of one member, and the same one with a comment that hides it.
-/

namespace RouteAtlas

open Script

namespace Script

/-- The members of the path interface of a script, in order. -/
def Source.pathMembers (s : Source) (r : Reading) : List Reading :=
  r.statements.flatMap s.membersOf

variable {s s' : Source} {r r' : Reading}

/-- Comments at the top level are no statements. -/
theorem statements_commented
    (h : Sprinkled (Commented s s') Reading.IsComment r.topLevel r'.topLevel) :
    List.Forall₂ (Commented s s') r.statements r'.statements := by
  refine List.rel_map (fun _ _ hab => hab.unwrapped) (h.filter ?_ ?_)
  · intro a b hab
    rw [hab.isAside_eq]
  · intro c hc
    rw [hc.1]
    rfl

/-- What a member says with comments inserted: nothing where one of them hides its type, else what
it said before. -/
theorem Grown.said?_eq {m m' : Reading} (h : Commented s s' m m') :
    s'.said? m' = if m'.hidesTypeof then none else s.said? m := by
  rw [Source.said?, Source.said?, ← h.claim?_eq]
  cases hm' : m'.hidesTypeof with
  | true => rfl
  | false =>
    -- what hid the type before would hide it still
    have hm : m.hidesTypeof = false := by
      rw [Bool.eq_false_iff]
      intro hm
      rw [h.hidesTypeof hm] at hm'
      cases hm'
    rw [hm]
    rfl

/-- The members that say something are those that no comment hides. -/
theorem filterMap_said?_commented {ms ms' : List Reading}
    (h : List.Forall₂ (Commented s s') ms ms') :
    ms'.filterMap s'.said? =
      ((ms.zip ms').filter fun m => !m.2.hidesTypeof).filterMap fun m => s.said? m.1 := by
  induction h with
  | nil => rfl
  | @cons m m' ms ms' hm _ ih =>
    rw [List.filterMap_cons, hm.said?_eq, ih, List.zip_cons_cons, List.filter_cons]
    cases m'.hidesTypeof with
    | true => rfl
    | false => rfl

end Script

namespace Bindings

/-- **Comments are harmless, except in one place.** Let comments be inserted between any parts of
any phrases of a script, and anywhere at its top level. Then the tables stay as they are. The members
of the path interface correspond one to one, and the entries are those of before, in order and
without their lines, except that exactly those members list nothing any more in which a comment
stands between the colon and the type, or in the `typeof` type. -/
theorem ofItems_commented {s s' : Source} {r r' : Reading}
    (h : Sprinkled (Commented s s') Reading.IsComment r.topLevel r'.topLevel) :
    (ofItems (s'.items r')).imports = (ofItems (s.items r)).imports ∧
      (ofItems (s'.items r')).updates = (ofItems (s.items r)).updates ∧
      (ofItems (s'.items r')).children = (ofItems (s.items r)).children ∧
      List.Forall₂ (Commented s s') (s.pathMembers r) (s'.pathMembers r') ∧
      (ofItems (s.items r)).entries.map PathEntry.said = (s.pathMembers r).filterMap s.said? ∧
      (ofItems (s'.items r')).entries.map PathEntry.said =
        (((s.pathMembers r).zip (s'.pathMembers r')).filter
          fun m => !m.2.hidesTypeof).filterMap fun m => s.said? m.1 := by
  have hstatements := statements_commented h
  have hmembers : List.Forall₂ (Commented s s') (s.pathMembers r) (s'.pathMembers r') :=
    List.rel_flatMap hstatements fun _ _ hab => hab.membersOf
  obtain ⟨himports, hupdates, hchildren, hentries⟩ := s.ofItems_items r
  obtain ⟨himports', hupdates', hchildren', hentries'⟩ := s'.ofItems_items r'
  refine ⟨?_, ?_, ?_, hmembers, hentries, ?_⟩
  · rw [himports, himports', flatMap_eq_of_forall₂ (fun _ _ hab => hab.importsOf_eq) hstatements]
  · rw [hupdates, hupdates',
      flatMap_eq_of_forall₂ (fun _ _ hab => hab.makesOf_eq updateMethod) hstatements]
  · rw [hchildren, hchildren',
      flatMap_eq_of_forall₂ (fun _ _ hab => hab.makesOf_eq childrenMethod) hstatements]
  · rw [hentries']
    exact filterMap_said?_commented hmembers

end Bindings

/-! ## A comment that hides a route -/

open Reading

/-- The type `typeof a` from `i` on, with comments before the name, which is at `n`. -/
def queryTree (i : Nat) (gap : List Reading) (n : Nat) : Reading :=
  phraseOf .typeQuery
    (tokenAt "typeof" i (i + 6) :: (gap ++ [tokenAt (.token .name) n (n + 1)]))

/-- A property with an empty path and that type. -/
def propertyTree (i : Nat) (gap : List Reading) (n : Nat) : Reading :=
  phraseOf .propertySignature [
    phraseOf .propertyName [
      phraseOf .string [tokenAt "\x27" i (i + 1), tokenAt "\x27" (i + 1) (i + 2)]],
    phraseOf .typeAscription [tokenAt ":" (i + 2) (i + 3),
      phraseOf .type [phraseOf .primaryType [queryTree (i + 3) gap n]]]]

/-- The path interface with that property. -/
def interfaceTree (i : Nat) (gap : List Reading) (n : Nat) : Reading :=
  phraseOf .interfaceDeclaration [tokenAt "interface" i (i + 9),
    tokenAt (.token .name) (i + 10) (i + 30), phraseOf .objectType [
      tokenAt "\x7b" (i + 30) (i + 31), propertyTree (i + 31) gap n,
      tokenAt "\x7d" (n + 1) (n + 2)]]

/-- A script that lists one route. -/
def shownScript : Source :=
  "interface FileRoutesByFullPath\x7b\x27\x27:typeof a\x7d".toList.toArray

/-- The same script with two comments, one at its top level and one that hides the route. -/
def hiddenScript : Source :=
  "/**/interface FileRoutesByFullPath\x7b\x27\x27:typeof/**/a\x7d".toList.toArray

def shownTree : Reading := phraseOf .program [statementOf (interfaceTree 0 [] 41)]

def hiddenTree : Reading :=
  phraseOf .program [commentAt 0 4, statementOf (interfaceTree 4 [commentAt 44 48] 48)]

theorem topLevel_shownTree : shownTree.topLevel = [statementOf (interfaceTree 0 [] 41)] := by
  simp [shownTree, statementOf, topLevel, spreadAll]

theorem topLevel_hiddenTree : hiddenTree.topLevel =
    [commentAt 0 4, statementOf (interfaceTree 4 [commentAt 44 48] 48)] := by
  simp [hiddenTree, statementOf, topLevel, spreadAll]

theorem commented_interfaceTree :
    Commented shownScript hiddenScript (statementOf (interfaceTree 0 [] 41))
      (statementOf (interfaceTree 4 [commentAt 44 48] 48)) := by
  obtain ⟨hinterface, hname, hopen, hquote, hquote', hcolon, htypeof, hroute, hclose⟩ :
      shownScript.slice 0 9 = hiddenScript.slice 4 13 ∧
        shownScript.slice 10 30 = hiddenScript.slice 14 34 ∧
        shownScript.slice 30 31 = hiddenScript.slice 34 35 ∧
        shownScript.slice 31 32 = hiddenScript.slice 35 36 ∧
        shownScript.slice 32 33 = hiddenScript.slice 36 37 ∧
        shownScript.slice 33 34 = hiddenScript.slice 37 38 ∧
        shownScript.slice 34 40 = hiddenScript.slice 38 44 ∧
        shownScript.slice 41 42 = hiddenScript.slice 48 49 ∧
        shownScript.slice 42 43 = hiddenScript.slice 49 50 := by decide +kernel
  -- phrase by phrase from the outside, each by a sentence of its rule
  refine .phraseOf [.phrase .declaration] (by decide +kernel) rfl (by simp [symbol_phraseOf])
    (.one ?_)
  refine .phraseOf [.phrase .interfaceDeclaration] (by decide +kernel) rfl
    (by simp [symbol_phraseOf, interfaceTree]) (.one ?_)
  refine .phraseOf [.spelled "interface", .token .name, .phrase .objectType] (by decide +kernel) rfl
    (by simp [symbol_phraseOf, symbol_tokenAt])
    (.cons (.tokenAt _ hinterface) (.cons (.tokenAt _ hname) (.one ?_)))
  refine .phraseOf [.spelled "\x7b", .phrase .propertySignature, .spelled "\x7d"]
    (by decide +kernel) rfl (by simp [symbol_phraseOf, symbol_tokenAt, propertyTree])
    (.cons (.tokenAt _ hopen) (.cons ?_ (.one (.tokenAt _ hclose))))
  refine .phraseOf [.phrase .propertyName, .phrase .typeAscription] (by decide +kernel) rfl
    (by simp [symbol_phraseOf]) (.cons ?_ (.one ?_))
  · refine .phraseOf [.phrase .string] (by decide +kernel) rfl (by simp [symbol_phraseOf]) (.one ?_)
    exact .phraseOf [.spelled "\x27", .spelled "\x27"] (by decide +kernel) rfl
      (by simp [symbol_tokenAt]) (.cons (.tokenAt _ hquote) (.one (.tokenAt _ hquote')))
  · refine .phraseOf [.spelled ":", .phrase .type] (by decide +kernel) rfl
      (by simp [symbol_phraseOf, symbol_tokenAt]) (.cons (.tokenAt _ hcolon) (.one ?_))
    refine .phraseOf [.phrase .primaryType] (by decide +kernel) rfl (by simp [symbol_phraseOf])
      (.one ?_)
    refine .phraseOf [.phrase .typeQuery] (by decide +kernel) rfl
      (by simp [symbol_phraseOf, queryTree]) (.one ?_)
    exact .phraseOf [.spelled "typeof", .token .name] (by decide +kernel) rfl
      (by simp [symbol_tokenAt])
      (.insert (.tokenAt _ htypeof) (isComment_commentAt _ _) (.one (.tokenAt _ hroute)))

section Trees

variable (i : Nat) (gap : List Reading) (n : Nat)

theorem membersOf_interfaceTree {s : Source} {i : Nat}
    (hname : s.slice (i + 10) (i + 30) = pathInterface.toList) :
    s.membersOf (statementOf (interfaceTree i gap n)).unwrapped =
      [propertyTree (i + 31) gap n] := by
  have hunwrapped : (statementOf (interfaceTree i gap n)).unwrapped = interfaceTree i gap n := by
    refine unwrapped_statementOf ?_ ?_
    · simp [interfaceTree, isChoice]
    · simp [interfaceTree]
  have hfind : (interfaceTree i gap n).parts.find? (·.isToken .name) =
      some (tokenAt (.token .name) (i + 10) (i + 30)) := by
    simp [interfaceTree, spreadAll, isToken_tokenAt_spelled]
  have hinterface : (interfaceTree i gap n).interfaceName?.map s.text = some pathInterface := by
    rw [interfaceName?, hfind]
    exact congrArg (some ∘ String.ofList) hname
  rw [hunwrapped, Source.membersOf_of_name _ hinterface]
  · simp [interfaceTree, propertyTree, properties, part?, phrases, spreadAll]
  · simp [interfaceTree]

theorem part?_propertyTree : (propertyTree i gap n).part? .typeAscription =
    some (phraseOf .typeAscription [tokenAt ":" (i + 2) (i + 3),
      phraseOf .type [phraseOf .primaryType [queryTree (i + 3) gap n]]]) := by
  simp [propertyTree, part?, spreadAll]

theorem type?_propertyTree : (propertyTree i gap n).type? =
    some (phraseOf .type [phraseOf .primaryType [queryTree (i + 3) gap n]]) := by
  rw [type?, part?_propertyTree]
  simp [spreadAll]

theorem core_queryTree :
    (phraseOf .type [phraseOf .primaryType [queryTree i gap n]]).core = queryTree i gap n :=
  core_of_choices (by simp [isChoice]) (by simp [isChoice]) (by simp [queryTree, isChoice])

theorem hidesTypeof_propertyTree :
    (propertyTree i gap n).hidesTypeof = (queryTree (i + 3) gap n).parts.any isAside := by
  have hquery : (queryTree (i + 3) gap n).isPhrase .typeQuery = true := by simp [queryTree]
  rw [hidesTypeof, type?_propertyTree, part?_propertyTree, Option.any_some, Option.any_some,
    core_queryTree, hquery]
  simp [spreadAll]

theorem said?_propertyTree (s : Source) :
    s.said? (propertyTree i [] n) = some ([], s.text (tokenAt (.token .name) n (n + 1))) := by
  have hshown : (propertyTree i [] n).hidesTypeof = false := by
    rw [hidesTypeof_propertyTree]
    simp [queryTree, spreadAll]
  have hkey : (propertyTree i [] n).quotedKey? =
      some (phraseOf .string [tokenAt "\x27" i (i + 1), tokenAt "\x27" (i + 1) (i + 2)]) := by
    have hpart : (propertyTree i [] n).part? .propertyName = some (phraseOf .propertyName [
        phraseOf .string [tokenAt "\x27" i (i + 1), tokenAt "\x27" (i + 1) (i + 2)]]) := by
      simp [propertyTree, part?, spreadAll]
    rw [quotedKey?, hpart, Option.bind_some]
    simp [part?, spreadAll]
  have hname : s.queriedName? (phraseOf .type [phraseOf .primaryType [queryTree (i + 3) [] n]]) =
      some (s.text (tokenAt (.token .name) n (n + 1))) := by
    refine Source.queriedName?_of_core (core_queryTree (i + 3) [] n) ?_ ?_ ?_
    · simp [queryTree]
    · simp [queryTree, spreadAll]
    · simp
  rw [Source.said?_of_parts hshown hkey (type?_propertyTree i [] n) hname,
    Source.literal_value_nil]

end Trees

/-- A comment in a `typeof` type takes the only route away, and one before the interface changes
nothing. -/
theorem Bindings.ofItems_commented_hiddenRoute :
    (ofItems (shownScript.items shownTree)).entries.map PathEntry.said = [([], "a")] ∧
      (ofItems (hiddenScript.items hiddenTree)).entries.map PathEntry.said = [] := by
  have h : Sprinkled (Commented shownScript hiddenScript) IsComment shownTree.topLevel
      hiddenTree.topLevel := by
    rw [topLevel_shownTree, topLevel_hiddenTree]
    exact .insert (isComment_commentAt 0 4) (.keep commented_interfaceTree .nil)
  obtain ⟨-, -, -, -, hshown, hhidden⟩ := Bindings.ofItems_commented h
  have hmembers : shownScript.pathMembers shownTree = [propertyTree 31 [] 41] := by
    have haside : (statementOf (interfaceTree 0 [] 41)).isAside = false := rfl
    simpa [Source.pathMembers, statements, topLevel_shownTree, haside] using
      membersOf_interfaceTree [] 41 (by decide +kernel)
  have hmembers' : hiddenScript.pathMembers hiddenTree = [propertyTree 35 [commentAt 44 48] 48] := by
    have haside : (statementOf (interfaceTree 4 [commentAt 44 48] 48)).isAside = false := rfl
    simpa [Source.pathMembers, statements, topLevel_hiddenTree, haside] using
      membersOf_interfaceTree [commentAt 44 48] 48 (by decide +kernel)
  have htext : shownScript.text (tokenAt (.token .name) 41 42) = "a" := by decide +kernel
  have hhides : (propertyTree 35 [commentAt 44 48] 48).hidesTypeof = true := by
    rw [hidesTypeof_propertyTree]
    simp [queryTree, spreadAll]
  rw [hshown, hhidden, hmembers, hmembers']
  constructor
  · rw [List.filterMap_cons, said?_propertyTree, htext]
    rfl
  · rw [List.zip_cons_cons, List.filter_cons_of_neg (by rw [hhides]; decide)]
    rfl

end RouteAtlas
