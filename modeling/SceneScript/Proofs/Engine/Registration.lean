import SceneScript.Proofs.Engine.Libraries
/-!
# Engine — the order in which libraries are registered

A library whose namespace exists is passed over, and a namespace exists as soon
as one below it was created. So a library is put in exactly when none that was
registered before lies below it (`populated_eq_iff`), and where all are put in,
each namespace holds the stock of its library, no more and no less
(`Registry.Stocks`). The order does not matter, and every library comes in,
exactly when no library lies below another (`populated_perm_iff`).
-/

namespace SceneScript

variable {n : Nat} {κ α γ : Type}

namespace Library

/-- A library that fills its own namespace, with a stock that depends on the
engine at most, and does nothing else to a registry. -/
structure Fills (library : Library n κ α γ) (stock : Fin n → Namespace (World n κ α γ)) : Prop
    extends library.Grows where
  node? : ∀ i registry world path,
    ((library.populate i registry world).1.create library.name).node? path =
      (registry.add library.name (stock i).elements (stock i).attributes).node? path

/-- A library that adds a stock to its namespace. -/
def ofStock (name : String) (stock : Namespace (World n κ α γ)) : Library n κ α γ where
  name
  populate _ registry world := (registry.add name stock.elements stock.attributes, world)

/-- Creating what was added to changes nothing. -/
theorem fills_ofStock (name : String) (stock : Namespace (World n κ α γ)) :
    (ofStock name stock : Library n κ α γ).Fills fun _ => stock where
  root _ registry _ := registry.root_add ..
  has _ _ _ _ h := Registry.has_add_iff.2 (Registry.has_create_iff.2 (.inl h))
  node? i registry world path := by
    rw [Registry.node?_create]
    split
    next hpath =>
      have hhas : (registry.add name stock.elements stock.attributes).Has path :=
        Registry.has_add_iff.2 (Registry.has_create_iff.2 (.inr hpath))
      obtain ⟨ns, hns⟩ := Option.isSome_iff_exists.1 hhas
      exact (congrArg (Option.or · _) hns).trans hns.symm
    next => exact Option.or_none

end Library

/-! ## What the registry holds -/

/-- A registry that holds the stock of each library, and else nothing but the
namespaces on the way. -/
structure Registry.Stocks (i : Fin n) (libraries : List (Library n κ α γ))
    (registry : Registry (World n κ α γ)) : Prop where
  full : ∀ library ∈ libraries, ∀ stock, library.Fills stock →
    registry.node? library.path = some (stock i)
  bare : ∀ path, (∀ library ∈ libraries, library.path ≠ path) → registry.node? path =
    if path = [] ∨ ∃ library ∈ libraries, path <+: library.path then some {} else none

namespace Registry

variable {registry : Registry (World n κ α γ)}

/-- At first there is only the root. -/
theorem stocks_nil (h : registry.nodes = [([], {})]) (i : Fin n) :
    registry.Stocks i ([] : List (Library n κ α γ)) := by
  refine ⟨List.forall_mem_nil _, fun path _ => ?_⟩
  rw [node?, h]
  cases path with
  | nil => rfl
  | cons segment rest => simp

/-- Where no library lies below, there is no namespace yet. -/
theorem Stocks.node?_eq_none {i : Fin n} {libraries : List (Library n κ α γ)}
    (h : registry.Stocks i libraries) {path : List String} (hpath : path ≠ [])
    (hbelow : ∀ library ∈ libraries, ¬ path <+: library.path) : registry.node? path = none := by
  rw [h.bare, if_neg]
  · rintro (hnil | ⟨library, hlibrary, hprefix⟩)
    · exact hpath hnil
    · exact hbelow library hlibrary hprefix
  · rintro library hlibrary rfl
    exact hbelow library hlibrary List.prefix_rfl

/-- What a registry holds does not depend on the order. -/
theorem Stocks.node?_eq {other : Registry (World n κ α γ)} {i : Fin n}
    {libraries others : List (Library n κ α γ)} (h : registry.Stocks i libraries)
    (h' : other.Stocks i others) (hperm : libraries.Perm others)
    (hfills : ∀ library ∈ libraries, ∃ stock, library.Fills stock) (path : List String) :
    registry.node? path = other.node? path := by
  by_cases hlibrary : ∃ library ∈ libraries, library.path = path
  · obtain ⟨library, hmem, rfl⟩ := hlibrary
    obtain ⟨stock, hstock⟩ := hfills library hmem
    rw [h.full library hmem stock hstock, h'.full library (hperm.mem_iff.1 hmem) stock hstock]
  · rw [not_exists] at hlibrary
    have hnone : ∀ library ∈ libraries, library.path ≠ path := fun library hmem heq =>
      hlibrary library ⟨hmem, heq⟩
    rw [h.bare path hnone, h'.bare path fun library hmem => hnone library (hperm.mem_iff.2 hmem)]
    simp only [hperm.mem_iff]

end Registry

namespace Session

/-- Libraries, none of which lies below one that is registered later. -/
def Upward (libraries : List (Library n κ α γ)) : Prop :=
  libraries.Pairwise fun earlier later => ¬ later.path <+: earlier.path

/-- What a registry has once a library was put in. -/
theorem node?_put {library : Library n κ α γ} {stock : Fin n → Namespace (World n κ α γ)}
    (h : library.Fills stock) (s : Session n κ α γ) (path : List String) :
    (s.put library).registry.node? path =
      if path = library.path then
        ((s.registry.node? path).or
          (if path ≠ [] ∧ path <+: library.path then some {} else none)).map
            (·.extend (stock s.id).elements (stock s.id).attributes)
      else (s.registry.node? path).or
        (if path ≠ [] ∧ path <+: library.path then some {} else none) := by
  rw [put, h.node?, Registry.node?_add, Registry.node?_create]
  rfl

/-- A library comes into a registry of others, none of which lies below it. -/
theorem stocks_put {s : Session n κ α γ} {libraries : List (Library n κ α γ)}
    {library : Library n κ α γ} (h : s.registry.Stocks s.id libraries)
    (hpath : library.path ≠ []) {stock : Fin n → Namespace (World n κ α γ)}
    (hfills : library.Fills stock) (hbelow : ∀ other ∈ libraries, ¬ library.path <+: other.path) :
    (s.put library).registry.Stocks s.id (libraries ++ [library]) := by
  have hne (other : Library n κ α γ) (hother : other ∈ libraries) : other.path ≠ library.path :=
    fun heq => hbelow other hother (heq ▸ List.prefix_rfl)
  have hnone := h.node?_eq_none hpath hbelow
  constructor
  · intro other hother stock hstock
    rcases List.mem_append.1 hother with hold | hnew
    · rw [node?_put hfills, if_neg (hne other hold), h.full other hold stock hstock]
      rfl
    · obtain rfl := List.mem_singleton.1 hnew
      rw [node?_put hstock, if_pos rfl, hnone, if_pos ⟨hpath, List.prefix_rfl⟩]
      rfl
  · intro path hothers
    obtain ⟨hold, hnew⟩ := List.forall_mem_append.1 hothers
    have hpath : path ≠ library.path := Ne.symm (hnew library (List.mem_singleton_self _))
    rw [node?_put hfills, if_neg hpath, h.bare path hold]
    simp only [List.mem_append, List.mem_singleton, or_and_right, exists_or, exists_eq_left]
    by_cases hway : path = [] ∨ ∃ other ∈ libraries, path <+: other.path
    · rw [if_pos hway, if_pos (hway.imp_right .inl)]
      rfl
    · obtain ⟨hroot, hothers⟩ := not_or.1 hway
      rw [if_neg hway, Option.none_or]
      simp [hroot, hothers]

/-- Libraries that come in one after the other. -/
theorem stocks_foldl_loadLibrary {s : Session n κ α γ} {libraries rest : List (Library n κ α γ)}
    (hdot : '.' ∉ s.registry.root.toList) (h : s.registry.Stocks s.id libraries)
    (hrest : ∀ library ∈ rest, library.path ≠ [] ∧ ∃ stock, library.Fills stock)
    (hupward : Upward (libraries ++ rest)) :
    s.populatedFrom rest = rest ∧
      (rest.foldl loadLibrary s).registry.Stocks s.id (libraries ++ rest) := by
  induction rest generalizing s libraries with
  | nil => exact ⟨rfl, (List.append_nil libraries).symm ▸ h⟩
  | cons library rest ih =>
    obtain ⟨⟨hpath, stock, hfills⟩, hrest⟩ := List.forall_mem_cons.1 hrest
    have hbelow : ∀ other ∈ libraries, ¬ library.path <+: other.path := fun other hother =>
      (List.pairwise_append.1 hupward).2.2 other hother library List.mem_cons_self
    have hput := stocks_put h hpath hfills hbelow
    have hfinds : ¬ s.Finds library := by
      rw [finds_iff hdot, Registry.Has, h.node?_eq_none hpath hbelow]
      exact Bool.false_ne_true
    have hroot : (s.put library).registry.root = s.registry.root :=
      (Registry.root_create _ _).trans (hfills.root _ _ _)
    rw [populatedFrom, if_neg hfinds, List.foldl_cons, loadLibrary_eq, if_neg hfinds,
      List.append_cons]
    rw [List.append_cons] at hupward
    obtain ⟨hpopulated, hstocks⟩ := ih (hroot ▸ hdot) hput hrest hupward
    exact ⟨congrArg (library :: ·) hpopulated, hstocks⟩

/-- Libraries that all come in find nothing in their places. -/
theorem not_has_of_populatedFrom_eq {s : Session n κ α γ} {libraries : List (Library n κ α γ)}
    (hdot : '.' ∉ s.registry.root.toList) (hrooted : s.registry.Has [])
    (hgrows : ∀ library ∈ libraries, library.Grows) (h : s.populatedFrom libraries = libraries) :
    ∀ library ∈ libraries, ¬ s.registry.Has library.path := by
  intro library hlibrary
  have hreceives := receives_foldl_loadLibrary hrooted hgrows
  rw [h] at hreceives
  exact (hreceives.fresh hdot).2 _ (List.mem_map_of_mem hlibrary)

/-- Libraries that all come in: none lies below one that is registered later. -/
theorem upward_of_populatedFrom_eq {s : Session n κ α γ} {libraries : List (Library n κ α γ)}
    (hdot : '.' ∉ s.registry.root.toList) (hrooted : s.registry.Has [])
    (hlibraries : ∀ library ∈ libraries, library.path ≠ [] ∧ library.Grows)
    (h : s.populatedFrom libraries = libraries) : Upward libraries := by
  induction libraries generalizing s with
  | nil => exact .nil
  | cons library rest ih =>
    have hgrows : ∀ other ∈ library :: rest, other.Grows := fun other hother =>
      (hlibraries other hother).2
    obtain ⟨hlibrary, hrest⟩ := List.forall_mem_cons.1 hlibraries
    have hfinds : ¬ s.Finds library := by
      rw [finds_iff hdot]
      exact not_has_of_populatedFrom_eq hdot hrooted hgrows h library List.mem_cons_self
    have hput := receives_put hrooted hlibrary.2 hfinds
    have hdot' : '.' ∉ (s.put library).registry.root.toList := hput.root ▸ hdot
    rw [populatedFrom, if_neg hfinds, List.cons.injEq] at h
    refine .cons (fun later hlater hprefix => ?_) (ih hdot' (hput.grows [] hrooted) hrest h.2)
    -- the place of a later one would exist by now
    exact not_has_of_populatedFrom_eq hdot' (hput.grows [] hrooted)
      (List.forall_mem_cons.1 hgrows).2 h.2 later hlater
      (Registry.has_create_iff.2 (.inr ⟨(hrest later hlater).1, hprefix⟩))

/-- **All libraries come into a fresh registry** exactly when none of them lies
below one that is registered later. -/
theorem populated_eq_iff {s : Session n κ α γ} (hfresh : s.registry.nodes = [([], {})])
    (hdot : '.' ∉ s.registry.root.toList)
    (hlibraries : ∀ library ∈ s.engine.libraries,
      library.path ≠ [] ∧ ∃ stock, library.Fills stock) :
    s.populated = s.engine.libraries ↔ Upward s.engine.libraries := by
  constructor
  · refine upward_of_populatedFrom_eq hdot ?_ fun library hlibrary => ?_
    · rw [Registry.Has, Registry.node?, hfresh]
      rfl
    · obtain ⟨hpath, stock, hfills⟩ := hlibraries library hlibrary
      exact ⟨hpath, hfills.toGrows⟩
  · exact fun h => (stocks_foldl_loadLibrary hdot (Registry.stocks_nil hfresh s.id) hlibraries h).1

/-- The session with a list of libraries registered. -/
def supply (s : Session n κ α γ) (libraries : List (Library n κ α γ)) : Session n κ α γ :=
  { s with engine := { s.engine with libraries } }

/-- Libraries none of which lies below another can be registered in any order. -/
theorem upward_of_perm {libraries order : List (Library n κ α γ)} (hperm : order.Perm libraries)
    (hdistinct : (libraries.map Library.path).Nodup)
    (h : ∀ a ∈ libraries, ∀ b ∈ libraries, a.path <+: b.path → a.path = b.path) :
    Upward order := by
  have hnodup : (order.map Library.path).Nodup := (hperm.map _).nodup_iff.2 hdistinct
  refine (List.pairwise_map.1 hnodup).imp_of_mem fun {earlier later} hearlier hlater hne => ?_
  exact fun hprefix =>
    hne (h later (hperm.mem_iff.1 hlater) earlier (hperm.mem_iff.1 hearlier) hprefix).symm

/-- **Every library comes in, whatever the order**, exactly when none lies below
another. Then every namespace holds the same in every order: that of a library
its stock. -/
theorem populated_perm_iff {s : Session n κ α γ} (hfresh : s.registry.nodes = [([], {})])
    (hdot : '.' ∉ s.registry.root.toList) {libraries : List (Library n κ α γ)}
    (hpaths : ∀ library ∈ libraries, library.path ≠ [])
    (hdistinct : (libraries.map Library.path).Nodup)
    (hfills : ∀ library ∈ libraries, ∃ stock, library.Fills stock) :
    (∀ order : List (Library n κ α γ), order.Perm libraries →
      (s.supply order).populated = order ∧
        (∀ library ∈ libraries, ∀ stock, library.Fills stock →
          (s.supply order).loadLibraries.registry.find? library.name = some (stock s.id)) ∧
        ∀ path, (s.supply order).loadLibraries.registry.find? path =
          (s.supply libraries).loadLibraries.registry.find? path) ↔
      ∀ a ∈ libraries, ∀ b ∈ libraries, a.path <+: b.path → a.path = b.path := by
  have hlibraries {order : List (Library n κ α γ)} (hperm : order.Perm libraries) :
      ∀ library ∈ order, library.path ≠ [] ∧ ∃ stock, library.Fills stock := fun library hlibrary =>
    ⟨hpaths library (hperm.mem_iff.1 hlibrary), hfills library (hperm.mem_iff.1 hlibrary)⟩
  constructor
  · intro h a ha b hb hprefix
    by_contra hne
    -- the one below is registered first
    obtain ⟨before, after, rfl⟩ := List.append_of_mem hb
    have hperm : (b :: (before ++ after)).Perm (before ++ b :: after) := List.perm_middle.symm
    have hupward : Upward (b :: (before ++ after)) :=
      (populated_eq_iff (s := s.supply (b :: (before ++ after))) hfresh hdot
        (hlibraries hperm)).1 (h _ hperm).1
    have hmem : a ∈ before ++ after := by
      refine List.mem_of_ne_of_mem (fun heq => hne ?_) (hperm.mem_iff.2 ha)
      rw [heq]
    exact (List.pairwise_cons.1 hupward).1 a hmem hprefix
  · intro h order hperm
    obtain ⟨hpopulated, hstocks⟩ := stocks_foldl_loadLibrary (s := s.supply order) hdot
      (Registry.stocks_nil hfresh s.id) (hlibraries hperm) (upward_of_perm hperm hdistinct h)
    obtain ⟨-, hstocks'⟩ := stocks_foldl_loadLibrary (s := s.supply libraries) hdot
      (Registry.stocks_nil hfresh s.id) (hlibraries (.refl _))
      (upward_of_perm (.refl _) hdistinct h)
    refine ⟨hpopulated, fun library hlibrary stock hstock => ?_, fun path => ?_⟩
    · exact hstocks.full library (hperm.mem_iff.2 hlibrary) stock hstock
    · exact hstocks.node?_eq hstocks' hperm
        (fun library hlibrary => (hlibraries hperm library hlibrary).2) (segments path)

/-- An engine whose root has no dot in its name, and which has no libraries. -/
def bare : Session 1 Unit SkinAssets Unit :=
  solo { loadDefaultLibraries := false } (MemorySource.load []) {} ()

/-- A library that adds one element. -/
def single (name element : String) : Library 1 Unit SkinAssets Unit :=
  .ofStock name { elements := [{ name := element, build := fun _ => pure none }] }

/-- Libraries side by side come in in every order. -/
theorem populated_perm_iff_bare :
    let libraries := [single "fx.deep" "comet", single "fx.wide" "star"]
    ((∀ library ∈ libraries, library.path ≠ []) ∧ (libraries.map Library.path).Nodup) ∧
      ∀ order : List (Library 1 Unit SkinAssets Unit), order.Perm libraries →
        (bare.supply order).populated = order ∧
          (∀ library ∈ libraries, ∀ stock, library.Fills stock →
            (bare.supply order).loadLibraries.registry.find? library.name =
              some (stock bare.id)) ∧
          ∀ path, (bare.supply order).loadLibraries.registry.find? path =
            (bare.supply libraries).loadLibraries.registry.find? path := by
  intro libraries
  have hpaths : ∀ library ∈ libraries, library.path ≠ [] := by decide +kernel
  have hdistinct : (libraries.map Library.path).Nodup := by decide +kernel
  have hfills : ∀ library ∈ libraries, ∃ stock, library.Fills stock := by
    simp only [libraries, List.forall_mem_cons]
    exact ⟨⟨_, Library.fills_ofStock _ _⟩, ⟨_, Library.fills_ofStock _ _⟩, List.forall_mem_nil _⟩
  refine ⟨⟨hpaths, hdistinct⟩, (populated_perm_iff rfl (by decide) hpaths hdistinct hfills).2 ?_⟩
  decide +kernel

/-- **A library can be passed over**: registered after one below it, it does not
come in, and its namespace stays empty. -/
theorem populated_ne_perm :
    let deep := single "fx.deep" "comet"
    let wide := single "fx" "star"
    ((∀ library ∈ [deep, wide], library.path ≠ []) ∧ ([deep, wide].map Library.path).Nodup ∧
      ∀ library ∈ [deep, wide], ∃ stock, library.Fills stock) ∧
    (bare.supply [wide, deep]).populated.map Library.name = ["fx", "fx.deep"] ∧
    (bare.supply [deep, wide]).populated.map Library.name = ["fx.deep"] ∧
    ((bare.supply [wide, deep]).loadLibraries.registry.find? "fx").map
      (·.elements.map ElementDirective.name) = some ["star"] ∧
    ((bare.supply [deep, wide]).loadLibraries.registry.find? "fx").map
      (·.elements.map ElementDirective.name) = some [] := by
  intro deep wide
  refine ⟨⟨by decide +kernel, by decide +kernel, ?_⟩, by decide +kernel, by decide +kernel,
    by decide +kernel, by decide +kernel⟩
  simp only [List.forall_mem_cons]
  exact ⟨⟨_, Library.fills_ofStock _ _⟩, ⟨_, Library.fills_ofStock _ _⟩, List.forall_mem_nil _⟩

end Session

end SceneScript
