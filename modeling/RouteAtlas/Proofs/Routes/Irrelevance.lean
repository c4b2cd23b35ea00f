import RouteAtlas.Proofs.Script.Build

/-!
# What carries no routing information does not matter

Two scripts may differ in the arguments of their calls, in type annotations, in `export`, in other
interfaces, in default and namespace imports, and in the inside of every statement that declares
nothing. They bind the same names and list the same routes.

- `Script.SameCallee`, `Script.AlikeDeclarators`, `Script.Alike`: statements that differ in such
  things only;
- `Alike.importsOf_eq`, `Alike.makesOf_eq`, `Alike.said_eq`: what one statement declares (**one case
  for each kind of statement**);
- `Bindings.ofItems_alike`: what the scripts bind.
-/

namespace RouteAtlas

open Script

namespace Script

/-! ## Statements that differ in what does not matter -/

/-- The kinds of statements that declare something. -/
def declaring : List Phrase :=
  [.importStatement, .lexicalDeclaration, .variableDeclaration, .interfaceDeclaration]

/-- Values of variables: the same expression, or two calls of the same callee, whatever their
arguments and type arguments are. -/
inductive SameCallee (s s' : Source) : Reading → Reading → Prop where
  | same {e e' : Reading} (h : Same s s' e e') : SameCallee s s' e e'
  | call {e e' : Reading} (he : e.core.isPhrase .callExpression = true)
      (he' : e'.core.isPhrase .callExpression = true)
      (hcallee : Option.Rel (Same s s') e.core.parts.head? e'.core.parts.head?) :
      SameCallee s s' e e'

/-- Declarators with the same target, whatever their type annotations are. -/
structure AlikeDeclarators (s s' : Source) (d d' : Reading) : Prop where
  target : Option.Rel (Same s s') d.parts.head? d'.parts.head?
  value : Option.Rel (SameCallee s s') d.value? d'.value?

/-- Statements of one kind, with `export` taken off, that differ only in what carries no routing
information. -/
inductive Alike (s s' : Source) : Reading → Reading → Prop where
  | same {u u' : Reading} (h : Same s s' u u') : Alike s s' u u'
  /-- Imports of the same names in braces from the same module: their default and namespace parts
  may differ. -/
  | imports {u u' : Reading} (hu : u.isPhrase .importStatement = true)
      (hu' : u'.isPhrase .importStatement = true)
      (hnamed : Option.Rel (Same s s') u.namedImports? u'.namedImports?)
      (hmodule : Option.Rel (Same s s') u.moduleText? u'.moduleText?) : Alike s s' u u'
  /-- Declarations of variables: the arguments of calls and the type annotations may differ. -/
  | declarators {u u' : Reading} {p : Phrase}
      (hp : p = .lexicalDeclaration ∨ p = .variableDeclaration) (hu : u.isPhrase p = true)
      (hu' : u'.isPhrase p = true)
      (hds : List.Forall₂ (AlikeDeclarators s s') (u.phrases .variableDeclarator)
        (u'.phrases .variableDeclarator)) : Alike s s' u u'
  /-- Interfaces that do not list paths: everything in them may differ. -/
  | interfaces {u u' : Reading} (hu : u.isPhrase .interfaceDeclaration = true)
      (hu' : u'.isPhrase .interfaceDeclaration = true)
      (hname : (s.interface_ u).name ≠ pathInterface)
      (hname' : (s'.interface_ u').name ≠ pathInterface) : Alike s s' u u'
  /-- Other statements of one kind: everything in them may differ. -/
  | others {u u' : Reading} (hkind : u.symbol = u'.symbol)
      (hother : ∀ p ∈ declaring, u.isPhrase p = false) : Alike s s' u u'

variable {s s' : Source} {u u' : Reading}

/-! ## One statement -/

/-- The callee in the value of a variable. -/
theorem SameCallee.callee? {e e' : Reading} (h : SameCallee s s' e e') :
    Option.Rel (Commented s s') e.callee? e'.callee? := by
  cases h with
  | same h => exact h.commented.callee?
  | call he he' hcallee =>
    rw [Reading.callee?, Reading.callee?, if_pos he, if_pos he']
    exact rel_mono (fun _ _ hab => hab.commented) hcallee

theorem AlikeDeclarators.madeBy_eq {d d' : Reading} (h : AlikeDeclarators s s' d d')
    (method : String) : s.madeBy method d = s'.madeBy method d' :=
  Grown.madeBy_eq (rel_mono (fun _ _ hab => hab.commented) h.target)
    (rel_mono (fun _ _ hab => hab.callee?) h.value) method

/-- Members that differ in no comment either way say the same: a comment hides the type in both or in
none. -/
theorem said?_eq_of_commented {m m' : Reading} (h : Commented s s' m m')
    (h' : Commented s' s m' m) : s.said? m = s'.said? m' := by
  have hhides : m.hidesTypeof = m'.hidesTypeof := by
    rw [Bool.eq_iff_iff]
    exact ⟨h.hidesTypeof, h'.hidesTypeof⟩
  rw [Source.said?, Source.said?, hhides, h.claim?_eq]

theorem filterMap_said?_eq {ms ms' : List Reading} (h : List.Forall₂ (Commented s s') ms ms')
    (h' : List.Forall₂ (Commented s' s) ms' ms) :
    ms.filterMap s.said? = ms'.filterMap s'.said? := by
  induction h with
  | nil => rfl
  | cons hm _ ih =>
    cases h' with
    | cons hm' hms' =>
      rw [List.filterMap_cons, List.filterMap_cons, said?_eq_of_commented hm hm', ih hms']

namespace Alike

theorem isPhrase_eq (h : Alike s s' u u') (p : Phrase) : u.isPhrase p = u'.isPhrase p := by
  have hsymbol : u.symbol = u'.symbol := by
    cases h with
    | same h => exact h.symbol_eq
    | imports hu hu' => exact (eq_of_beq hu).trans (eq_of_beq hu').symm
    | declarators _ hu hu' => exact (eq_of_beq hu).trans (eq_of_beq hu').symm
    | interfaces hu hu' => exact (eq_of_beq hu).trans (eq_of_beq hu').symm
    | others hkind => exact hkind
  rw [Reading.isPhrase, Reading.isPhrase, hsymbol]

theorem importsOf_eq (h : Alike s s' u u') : s.importsOf u = s'.importsOf u' := by
  have hnone : u.isPhrase .importStatement = false → s.importsOf u = s'.importsOf u' := by
    intro hu
    rw [Source.importsOf, Source.importsOf, ← h.isPhrase_eq, hu]
    rfl
  cases h with
  | same h => exact h.commented.importsOf_eq
  | imports hu hu' hnamed hmodule =>
    rw [Source.importsOf, Source.importsOf, if_pos hu, if_pos hu']
    exact Grown.importedNames_eq (rel_mono (fun _ _ hab => hab.commented) hnamed)
      (rel_mono (fun _ _ hab => hab.commented) hmodule)
  | declarators hp hu =>
    rcases hp with rfl | rfl
    · exact hnone (Reading.isPhrase_ne hu (by decide))
    · exact hnone (Reading.isPhrase_ne hu (by decide))
  | interfaces hu => exact hnone (Reading.isPhrase_ne hu (by decide))
  | others _ hother => exact hnone (hother .importStatement (by decide))

theorem makesOf_eq (h : Alike s s' u u') (method : String) :
    s.makesOf method u = s'.makesOf method u' := by
  have hnone : u.isPhrase .lexicalDeclaration = false → u.isPhrase .variableDeclaration = false →
      s.makesOf method u = s'.makesOf method u' := by
    intro hu hu'
    rw [Source.makesOf, Source.makesOf, ← h.isPhrase_eq, ← h.isPhrase_eq, hu, hu']
    rfl
  cases h with
  | same h => exact h.commented.makesOf_eq method
  | imports hu =>
    exact hnone (Reading.isPhrase_ne hu (by decide)) (Reading.isPhrase_ne hu (by decide))
  | @declarators p hp hu hu' hds =>
    have hdeclares : ∀ r : Reading, r.isPhrase p = true →
        (r.isPhrase .lexicalDeclaration || r.isPhrase .variableDeclaration) = true := by
      intro r hr
      rw [Bool.or_eq_true]
      rcases hp with rfl | rfl
      · exact .inl hr
      · exact .inr hr
    rw [Source.makesOf, Source.makesOf, if_pos (hdeclares u hu), if_pos (hdeclares u' hu')]
    exact flatMap_eq_of_forall₂ (fun _ _ hd => hd.madeBy_eq method) hds
  | interfaces hu =>
    exact hnone (Reading.isPhrase_ne hu (by decide)) (Reading.isPhrase_ne hu (by decide))
  | others _ hother =>
    exact hnone (hother .lexicalDeclaration (by decide)) (hother .variableDeclaration (by decide))

theorem said_eq (h : Alike s s' u u') :
    (s.membersOf u).filterMap s.said? = (s'.membersOf u').filterMap s'.said? := by
  have hnone : u.isPhrase .interfaceDeclaration = false →
      (s.membersOf u).filterMap s.said? = (s'.membersOf u').filterMap s'.said? := by
    intro hu
    rw [Source.membersOf, Source.membersOf, ← h.isPhrase_eq, hu]
    rfl
  cases h with
  | same h => exact filterMap_said?_eq h.commented.membersOf h.symm.commented.membersOf
  | imports hu => exact hnone (Reading.isPhrase_ne hu (by decide))
  | declarators hp hu =>
    rcases hp with rfl | rfl
    · exact hnone (Reading.isPhrase_ne hu (by decide))
    · exact hnone (Reading.isPhrase_ne hu (by decide))
  | interfaces hu hu' hname hname' =>
    rw [ne_eq, Source.name_interface_eq_iff] at hname hname'
    rw [Source.membersOf, Source.membersOf, decide_eq_false hname, decide_eq_false hname',
      Bool.and_false, Bool.and_false]
    rfl
  | others _ hother => exact hnone (hother .interfaceDeclaration (by decide))

end Alike

end Script

/-! ## The script -/

namespace Bindings

/-- **What carries no routing information does not matter.** Let the statements of two scripts
correspond one to one, and differ only in such things as `Alike` leaves open; whether a declaration
is exported is taken off before. Then the tables are equal, the entries are equal but for their
lines, and so the routes are the same list. -/
theorem ofItems_alike {s s' : Source} {r r' : Reading}
    (h : List.Forall₂ (Alike s s') r.statements r'.statements) :
    (ofItems (s.items r)).imports = (ofItems (s'.items r')).imports ∧
      (ofItems (s.items r)).updates = (ofItems (s'.items r')).updates ∧
      (ofItems (s.items r)).children = (ofItems (s'.items r')).children ∧
      (ofItems (s.items r)).entries.map PathEntry.said =
        (ofItems (s'.items r')).entries.map PathEntry.said ∧
      (ofItems (s.items r)).routes = (ofItems (s'.items r')).routes := by
  obtain ⟨himports, hupdates, hchildren, hentries⟩ := s.ofItems_items r
  obtain ⟨himports', hupdates', hchildren', hentries'⟩ := s'.ofItems_items r'
  have himports_eq : (ofItems (s.items r)).imports = (ofItems (s'.items r')).imports := by
    rw [himports, himports', flatMap_eq_of_forall₂ (fun _ _ hu => hu.importsOf_eq) h]
  have hupdates_eq : (ofItems (s.items r)).updates = (ofItems (s'.items r')).updates := by
    rw [hupdates, hupdates', flatMap_eq_of_forall₂ (fun _ _ hu => hu.makesOf_eq updateMethod) h]
  have hchildren_eq : (ofItems (s.items r)).children = (ofItems (s'.items r')).children := by
    rw [hchildren, hchildren',
      flatMap_eq_of_forall₂ (fun _ _ hu => hu.makesOf_eq childrenMethod) h]
  have hentries_eq : (ofItems (s.items r)).entries.map PathEntry.said =
      (ofItems (s'.items r')).entries.map PathEntry.said := by
    rw [hentries, hentries', List.filterMap_flatMap, List.filterMap_flatMap]
    exact flatMap_eq_of_forall₂ (fun _ _ hu => hu.said_eq) h
  exact ⟨himports_eq, hupdates_eq, hchildren_eq, hentries_eq,
    routes_eq_of_said himports_eq hupdates_eq hchildren_eq hentries_eq⟩

end Bindings

/-! ## Two scripts that wrap one route -/

open Reading

/-- The member `b._addFileChildren` from `i` on. -/
def memberTree (i : Nat) : Reading :=
  phraseOf .memberExpression [phraseOf .primaryExpression [tokenAt (.token .name) i (i + 1)],
    tokenAt "." (i + 1) (i + 2), tokenAt (.token .name) (i + 2) (i + 18)]

/-- The same member as an expression. -/
def methodTree (i : Nat) : Reading :=
  phraseOf .expression [phraseOf .primaryExpression [memberTree i]]

/-- The expression that is a name. -/
def nameTree (i : Nat) : Reading :=
  phraseOf .expression [phraseOf .primaryExpression [tokenAt (.token .name) i (i + 1)]]

/-- A call of that member: the arguments end at `j`. -/
def callTree (i : Nat) (args : List Reading) (j : Nat) : Reading :=
  phraseOf .callExpression [methodTree i,
    phraseOf .arguments (tokenAt "(" (i + 18) (i + 19) :: (args ++ [tokenAt ")" j (j + 1)]))]

/-- A type annotation that is a name. -/
def annotationTree (i : Nat) : Reading :=
  phraseOf .typeAscription [tokenAt ":" i (i + 1),
    phraseOf .type [phraseOf .primaryType [tokenAt (.token .name) (i + 1) (i + 2)]]]

/-- A variable `a`, with a type annotation where a place for it is given; its value is that call,
from `j` on. -/
def declaratorTree (i : Nat) (colon : Option Nat) (j : Nat) (args : List Reading) (k : Nat) :
    Reading :=
  phraseOf .variableDeclarator (tokenAt (.token .name) i (i + 1) ::
    ((colon.map annotationTree).toList ++ [phraseOf .initializer [tokenAt "=" (j - 1) j,
      phraseOf .expression [phraseOf .primaryExpression [callTree j args k]]]]))

/-- The declaration of that variable. -/
def variableTree (i : Nat) (colon : Option Nat) (j : Nat) (args : List Reading) (k : Nat) :
    Reading :=
  phraseOf .lexicalDeclaration [tokenAt "const" i (i + 5),
    declaratorTree (i + 6) colon j args k, tokenAt ";" (k + 1) (k + 2)]

/-- A block. -/
def blockTree (i : Nat) (inside : List Reading) (j : Nat) : Reading :=
  phraseOf .statementBlock (tokenAt "\x7b" i (i + 1) :: (inside ++ [tokenAt "\x7d" j (j + 1)]))

def plainScript : Source := "const a=b._addFileChildren(c);\x7b\x7d".toList.toArray

def plainTree : Reading :=
  phraseOf .program [statementOf (variableTree 0 none 8 [nameTree 27] 28),
    phraseOf .statement [blockTree 30 [] 31]]

/-- The same script with `export`, a type annotation and no arguments, and with a block that
declares the variable otherwise. -/
def changedScript : Source :=
  "export const a:d=b._addFileChildren();\x7bconst a=c._addFileChildren(b);\x7d".toList.toArray

def changedTree : Reading :=
  phraseOf .program [exportOf 0 (variableTree 7 (some 14) 17 [] 36), phraseOf .statement [
    blockTree 38 [statementOf (variableTree 39 none 47 [nameTree 66] 67)] 69]]

section Trees

variable (i : Nat) (colon : Option Nat) (j : Nat) (args : List Reading) (k : Nat)

theorem unwrapped_blockTree (inside : List Reading) :
    (phraseOf .statement [blockTree i inside j]).unwrapped = blockTree i inside j := by
  refine unwrapped_of_core (core_of_choice ?_ ?_) ?_
  · simp [isChoice]
  · simp [blockTree, isChoice]
  · simp [blockTree]

theorem isChoice_variableTree : (variableTree i colon j args k).isChoice = false := by
  simp [variableTree, isChoice]

theorem phrases_variableTree : (variableTree i colon j args k).phrases .variableDeclarator =
    [declaratorTree (i + 6) colon j args k] := by
  simp [variableTree, declaratorTree, phrases, spreadAll]

theorem head?_declaratorTree : (declaratorTree i colon j args k).parts.head? =
    some (tokenAt (.token .name) i (i + 1)) := by
  simp [declaratorTree, spreadAll]

theorem value?_declaratorTree : (declaratorTree i colon j args k).value? =
    some (phraseOf .expression [phraseOf .primaryExpression [callTree j args k]]) := by
  have hpart : (declaratorTree i colon j args k).part? .initializer =
      some (phraseOf .initializer [tokenAt "=" (j - 1) j,
        phraseOf .expression [phraseOf .primaryExpression [callTree j args k]]]) := by
    cases colon with
    | none => simp [declaratorTree, part?, spreadAll]
    | some l => simp [declaratorTree, annotationTree, part?, spreadAll]
  rw [value?, hpart, Option.bind_some]
  simp [spreadAll]

theorem core_methodTree : (methodTree i).core = memberTree i :=
  core_of_choices (by simp [isChoice]) (by simp [isChoice]) (by simp [memberTree, isChoice])

theorem core_callTree :
    (phraseOf .expression [phraseOf .primaryExpression [callTree j args k]]).core =
      callTree j args k :=
  core_of_choices (by simp [isChoice]) (by simp [isChoice]) (by simp [callTree, isChoice])

theorem head?_callTree : (callTree j args k).parts.head? = some (methodTree j) := by
  simp [callTree, methodTree, spreadAll]

end Trees

variable {s s' : Source} {i i' j j' : Nat}

theorem same_methodTree (hobject : s.slice i (i + 1) = s'.slice i' (i' + 1))
    (hdot : s.slice (i + 1) (i + 2) = s'.slice (i' + 1) (i' + 2))
    (hmethod : s.slice (i + 2) (i + 18) = s'.slice (i' + 2) (i' + 18)) :
    Same s s' (methodTree i) (methodTree i') := by
  refine .phraseOf [.phrase .primaryExpression] (by decide +kernel) rfl (by simp [symbol_phraseOf])
    (.one ?_)
  refine .phraseOf [.phrase .memberExpression] (by decide +kernel) rfl
    (by simp [symbol_phraseOf, memberTree]) (.one ?_)
  refine .phraseOf [.phrase .primaryExpression, .spelled ".", .token .name] (by decide +kernel) rfl
    (by simp [symbol_phraseOf, symbol_tokenAt])
    (.cons ?_ (.cons (.tokenAt _ hdot) (.one (.tokenAt _ hmethod))))
  exact .phraseOf [.token .name] (by decide +kernel) rfl (by simp [symbol_tokenAt])
    (.one (.tokenAt _ hobject))

/-- Annotations and arguments do not matter. -/
theorem alike_variableTree (colon colon' : Option Nat) (args args' : List Reading)
    (k k' : Nat) (hname : s.slice (i + 6) (i + 7) = s'.slice (i' + 6) (i' + 7))
    (hmethod : Same s s' (methodTree j) (methodTree j')) :
    Alike s s' (variableTree i colon j args k) (variableTree i' colon' j' args' k') := by
  have hcall : ∀ j args k, (phraseOf .expression
      [phraseOf .primaryExpression [callTree j args k]]).core.isPhrase .callExpression = true := by
    intro j args k
    rw [core_callTree]
    simp [callTree]
  refine .declarators (.inl rfl) (by simp [variableTree]) (by simp [variableTree]) ?_
  rw [phrases_variableTree, phrases_variableTree]
  refine .cons ⟨?_, ?_⟩ .nil
  · rw [head?_declaratorTree, head?_declaratorTree]
    exact .some (.tokenAt _ hname)
  · rw [value?_declaratorTree, value?_declaratorTree]
    refine .some (.call (hcall j args k) (hcall j' args' k') ?_)
    rw [core_callTree, core_callTree, head?_callTree, head?_callTree]
    exact .some hmethod

theorem alike_blockTree (inside inside' : List Reading) :
    Alike s s' (blockTree i inside j) (blockTree i' inside' j') := by
  refine .others ?_ ?_
  · rw [blockTree, blockTree, symbol_phraseOf, symbol_phraseOf]
  · simp [declaring, blockTree]

theorem statements_plainTree :
    plainTree.statements = [variableTree 0 none 8 [nameTree 27] 28, blockTree 30 [] 31] := by
  have htop : plainTree.topLevel = [statementOf (variableTree 0 none 8 [nameTree 27] 28),
      phraseOf .statement [blockTree 30 [] 31]] := by
    simp [plainTree, statementOf, topLevel, spreadAll]
  rw [statements_of_topLevel htop rfl, List.map_cons, List.map_cons, List.map_nil,
    unwrapped_statementOf (isChoice_variableTree _ _ _ _ _) (by simp [variableTree]),
    unwrapped_blockTree]

theorem statements_changedTree :
    changedTree.statements = [variableTree 7 (some 14) 17 [] 36,
      blockTree 38 [statementOf (variableTree 39 none 47 [nameTree 66] 67)] 69] := by
  have htop : changedTree.topLevel = [exportOf 0 (variableTree 7 (some 14) 17 [] 36),
      phraseOf .statement [
        blockTree 38 [statementOf (variableTree 39 none 47 [nameTree 66] 67)] 69]] := by
    simp [changedTree, exportOf, topLevel, spreadAll]
  rw [statements_of_topLevel htop rfl, List.map_cons, List.map_cons, List.map_nil,
    unwrapped_exportOf 0 (isChoice_variableTree _ _ _ _ _), unwrapped_blockTree]

theorem children_plainTree :
    (Bindings.ofItems (plainScript.items plainTree)).children = [("a", "b")] := by
  obtain ⟨hname, hobject, hmethod⟩ : plainScript.text (tokenAt (.token .name) 6 7) = "a" ∧
      plainScript.text (phraseOf .primaryExpression [tokenAt (.token .name) 8 9]) = "b" ∧
      plainScript.text (tokenAt (.token .name) 10 26) = childrenMethod := by decide +kernel
  have hcalled : plainScript.methodOf? (methodTree 8).core = some ("b", childrenMethod) := by
    rw [core_methodTree, ← hobject, ← hmethod]
    refine Source.methodOf?_of_parts ?_ ?_ ?_ ?_ ?_
    · simp [memberTree]
    · simp [memberTree, spreadAll]
    · simp [memberTree, spreadAll]
    · simp [core, chosen, isChoice]
    · simp
  have hcallee : (phraseOf .expression [phraseOf .primaryExpression
      [callTree 8 [nameTree 27] 28]]).callee? = some (methodTree 8) := by
    rw [callee?, core_callTree, if_pos (by simp [callTree]), head?_callTree]
  have hmade := Source.madeBy_of_parts (head?_declaratorTree 6 none 8 [nameTree 27] 28)
    (by simp) (value?_declaratorTree 6 none 8 [nameTree 27] 28) hcallee hcalled
  have hblock : plainScript.makesOf childrenMethod (blockTree 30 [] 31) = [] := by
    have hlexical : (blockTree 30 [] 31).isPhrase .lexicalDeclaration = false := by simp [blockTree]
    have hvariable : (blockTree 30 [] 31).isPhrase .variableDeclaration = false := by
      simp [blockTree]
    rw [Source.makesOf, hlexical, hvariable]
    rfl
  have hvariable : plainScript.makesOf childrenMethod (variableTree 0 none 8 [nameTree 27] 28) =
      [("a", "b")] := by
    rw [Source.makesOf_of_lexical (by simp [variableTree]), phrases_variableTree,
      List.flatMap_singleton, hmade, hname]
  rw [(plainScript.ofItems_items plainTree).2.2.1, statements_plainTree, List.flatMap_cons,
    hvariable, List.flatMap_singleton, hblock]
  rfl

/-- The exported variable with another type and other children leads to the same wrapper. -/
theorem Bindings.ofItems_alike_otherChildren :
    (ofItems (plainScript.items plainTree)).children = [("a", "b")] ∧
      (ofItems (changedScript.items changedTree)).children = [("a", "b")] := by
  obtain ⟨hname, hobject, hdot, hmethod⟩ :
      plainScript.slice 6 7 = changedScript.slice 13 14 ∧
        plainScript.slice 8 9 = changedScript.slice 17 18 ∧
        plainScript.slice 9 10 = changedScript.slice 18 19 ∧
        plainScript.slice 10 26 = changedScript.slice 19 35 := by decide +kernel
  have h : List.Forall₂ (Alike plainScript changedScript) plainTree.statements
      changedTree.statements := by
    rw [statements_plainTree, statements_changedTree]
    exact .cons (alike_variableTree _ _ _ _ _ _ hname (same_methodTree hobject hdot hmethod))
      (.cons (alike_blockTree _ _) .nil)
  obtain ⟨-, -, hchildren, -, -⟩ := Bindings.ofItems_alike h
  rw [← hchildren]
  exact ⟨children_plainTree, children_plainTree⟩

end RouteAtlas
