import SceneScript.Engine.Theatre
import SceneScript.Proofs.Engine.Trace
import SceneScript.Proofs.Registry.Growth
/-!
# Engine — libraries and the registries they fill

Loading the libraries runs over the list of them and puts in those whose
namespace it does not find (`populated`). What goes on at a registry is a list of
such namespaces, whichever engines were at work: each exists afterwards, and where
the name of the root has no dot, none existed before (`Registry.Receives`). So no
library is put in twice. Where the name has a dot the namespaces are never found,
and every load puts all libraries in again: `nodup_populated_iff`.
-/

namespace SceneScript

variable {n : Nat} {κ α γ : Type}

namespace Library

/-- Where the namespace of a library stands in a registry. -/
def path (library : Library n κ α γ) : List String :=
  segments library.name

/-- A library that takes nothing away: the root keeps its name, and what exists
goes on existing. -/
structure Grows (library : Library n κ α γ) : Prop where
  root : ∀ i registry world, (library.populate i registry world).1.root = registry.root
  has : ∀ i registry world path, registry.Has path →
    (library.populate i registry world).1.Has path

/-- The built-in library is one. -/
theorem grows_builtin [AssetService α] : (builtin : Library n κ α γ).Grows where
  root _ registry _ := registry.root_add _ _ _
  has _ _ _ _ h := Registry.has_add_iff.2 (Registry.has_create_iff.2 (.inl h))

end Library

/-! ## Registries that receive libraries -/

/-- A registry to which the libraries of some namespaces came, in order: it lost
nothing, it has them all, and if the name of its root has no dot, each came to a
place where nothing was. -/
structure Registry.Receives {σ : Type} (before : Registry σ) (paths : List (List String))
    (after : Registry σ) : Prop where
  root : after.root = before.root
  grows : ∀ path, before.Has path → after.Has path
  arrived : ∀ path ∈ paths, after.Has path
  fresh : '.' ∉ before.root.toList → paths.Nodup ∧ ∀ path ∈ paths, ¬ before.Has path

namespace Registry.Receives

variable {σ : Type} {before between after : Registry σ} {first last : List (List String)}

theorem refl (registry : Registry σ) : registry.Receives [] registry :=
  ⟨rfl, fun _ h => h, List.forall_mem_nil _, fun _ => ⟨List.nodup_nil, List.forall_mem_nil _⟩⟩

theorem trans (h : before.Receives first between) (h' : between.Receives last after) :
    before.Receives (first ++ last) after := by
  refine ⟨h'.root.trans h.root, fun path hpath => h'.grows path (h.grows path hpath), ?_,
    fun hdot => ?_⟩
  · exact List.forall_mem_append.2 ⟨fun path hpath => h'.grows path (h.arrived path hpath),
      h'.arrived⟩
  · obtain ⟨hfirst, hbefore⟩ := h.fresh hdot
    obtain ⟨hlast, hbetween⟩ := h'.fresh (h.root ▸ hdot)
    refine ⟨List.nodup_append.2 ⟨hfirst, hlast, ?_⟩, List.forall_mem_append.2 ⟨hbefore, ?_⟩⟩
    · -- what came first is there when the rest comes
      rintro path hpath other hother rfl
      exact hbetween path hother (h.arrived path hpath)
    · exact fun path hpath hhas => hbetween path hpath (h.grows path hhas)

end Registry.Receives

namespace Session

/-! ## Loading the libraries -/

/-- Puts a library into the registry, whatever is there. -/
def put (s : Session n κ α γ) (library : Library n κ α γ) : Session n κ α γ :=
  { s with
    registry := (library.populate s.id s.registry s.world).1.create library.name
    world := (library.populate s.id s.registry s.world).2 }

/-- Whether the namespace of a library is found. -/
def Finds (s : Session n κ α γ) (library : Library n κ α γ) : Prop :=
  s.registry.isCreated (s.registry.root ++ "." ++ library.name)

instance (s : Session n κ α γ) (library : Library n κ α γ) : Decidable (s.Finds library) := by
  unfold Finds
  infer_instance

/-- The libraries of a list that loading it puts in. -/
def populatedFrom (s : Session n κ α γ) : List (Library n κ α γ) → List (Library n κ α γ)
  | [] => []
  | library :: rest =>
    if s.Finds library then s.populatedFrom rest else library :: (s.put library).populatedFrom rest

/-- The libraries that loading puts in. -/
def populated (s : Session n κ α γ) : List (Library n κ α γ) :=
  s.populatedFrom s.engine.libraries

theorem loadLibrary_eq (s : Session n κ α γ) (library : Library n κ α γ) :
    s.loadLibrary library = if s.Finds library then s else s.put library := rfl

theorem foldl_loadLibrary_eq (s : Session n κ α γ) (libraries : List (Library n κ α γ)) :
    libraries.foldl loadLibrary s = (s.populatedFrom libraries).foldl put s := by
  induction libraries generalizing s with
  | nil => rfl
  | cons library rest ih =>
    rw [List.foldl_cons, loadLibrary_eq, populatedFrom]
    split
    · exact ih s
    · exact ih (s.put library)

/-- **Loading the libraries puts in those that are not found**, each once for each
time it is listed, and does nothing else. -/
theorem loadLibraries_eq_foldl_put (s : Session n κ α γ) :
    s.loadLibraries = s.populated.foldl put s :=
  s.foldl_loadLibrary_eq s.engine.libraries

/-- Where the name of the root has no dot, a namespace is found if it exists. -/
theorem finds_iff {s : Session n κ α γ} (hdot : '.' ∉ s.registry.root.toList)
    (library : Library n κ α γ) : s.Finds library ↔ s.registry.Has library.path := by
  rw [Finds, Registry.isCreated_of_not_mem hdot]
  rfl

theorem not_finds {s : Session n κ α γ} (hdot : '.' ∈ s.registry.root.toList)
    (library : Library n κ α γ) : ¬ s.Finds library := by
  rw [Finds, Registry.isCreated_of_mem hdot]
  exact nofun

theorem receives_put {s : Session n κ α γ} {library : Library n κ α γ} (hrooted : s.registry.Has [])
    (hgrows : library.Grows) (hfinds : ¬ s.Finds library) :
    s.registry.Receives [library.path] (s.put library).registry := by
  have hput : ∀ path, s.registry.Has path → (s.put library).registry.Has path := fun path h =>
    Registry.has_create_iff.2 (.inl (hgrows.has _ _ _ _ h))
  refine ⟨?_, hput, List.forall_mem_singleton.2 ?_, fun hdot => ?_⟩
  · exact (Registry.root_create _ _).trans (hgrows.root _ _ _)
  · by_cases hpath : library.path = []
    · rw [hpath]
      exact hput [] hrooted
    · exact Registry.has_create_iff.2 (.inr ⟨hpath, List.prefix_rfl⟩)
  · refine ⟨List.pairwise_singleton _ _, List.forall_mem_singleton.2 fun hhas => ?_⟩
    exact hfinds ((finds_iff hdot library).2 hhas)

theorem receives_foldl_loadLibrary {s : Session n κ α γ} {libraries : List (Library n κ α γ)}
    (hrooted : s.registry.Has []) (hgrows : ∀ library ∈ libraries, library.Grows) :
    s.registry.Receives ((s.populatedFrom libraries).map Library.path)
      (libraries.foldl loadLibrary s).registry := by
  induction libraries generalizing s with
  | nil => exact .refl _
  | cons library rest ih =>
    obtain ⟨hlibrary, hrest⟩ := List.forall_mem_cons.1 hgrows
    rw [List.foldl_cons, loadLibrary_eq, populatedFrom]
    split
    · exact ih hrooted hrest
    next hfinds =>
      have hput := receives_put hrooted hlibrary hfinds
      exact hput.trans (ih (hput.grows [] hrooted) hrest)

theorem receives_loadLibraries {s : Session n κ α γ} (hrooted : s.registry.Has [])
    (hgrows : ∀ library ∈ s.engine.libraries, library.Grows) :
    s.registry.Receives (s.populated.map Library.path) s.loadLibraries.registry :=
  receives_foldl_loadLibrary hrooted hgrows

/-- What is listed exists once it is loaded. -/
theorem has_foldl_loadLibrary {s : Session n κ α γ} {libraries : List (Library n κ α γ)}
    (hdot : '.' ∉ s.registry.root.toList) (hrooted : s.registry.Has [])
    (hgrows : ∀ library ∈ libraries, library.Grows) :
    ∀ library ∈ libraries, (libraries.foldl loadLibrary s).registry.Has library.path := by
  induction libraries generalizing s with
  | nil => exact List.forall_mem_nil _
  | cons library rest ih =>
    obtain ⟨hlibrary, hrest⟩ := List.forall_mem_cons.1 hgrows
    obtain ⟨hroot, hkept, hhas⟩ : (s.loadLibrary library).registry.root = s.registry.root ∧
        (s.loadLibrary library).registry.Has [] ∧
        (s.loadLibrary library).registry.Has library.path := by
      rw [loadLibrary_eq]
      split
      next hfinds => exact ⟨rfl, hrooted, (finds_iff hdot library).1 hfinds⟩
      next hfinds =>
        have hput := receives_put hrooted hlibrary hfinds
        exact ⟨hput.root, hput.grows [] hrooted, hput.arrived _ (List.mem_singleton_self _)⟩
    have hlast := receives_foldl_loadLibrary hkept hrest
    exact List.forall_mem_cons.2 ⟨hlast.grows _ hhas, ih (hroot ▸ hdot) hkept hrest⟩

/-- **Libraries that are all found are left alone**, and so is everything else. -/
theorem loadLibraries_of_finds {s : Session n κ α γ}
    (h : ∀ library ∈ s.engine.libraries, s.Finds library) : s.loadLibraries = s := by
  unfold loadLibraries
  generalize s.engine.libraries = libraries at h
  induction libraries with
  | nil => rfl
  | cons library rest ih =>
    obtain ⟨hlibrary, hrest⟩ := List.forall_mem_cons.1 h
    rw [List.foldl_cons, loadLibrary_eq, if_pos hlibrary]
    exact ih hrest

/-- **Libraries that are never found are all put in.** -/
theorem populated_of_mem {s : Session n κ α γ} (hdot : '.' ∈ s.registry.root.toList)
    (hgrows : ∀ library ∈ s.engine.libraries, library.Grows) :
    s.populated = s.engine.libraries := by
  unfold populated
  generalize s.engine.libraries = libraries at hgrows
  induction libraries generalizing s with
  | nil => rfl
  | cons library rest ih =>
    obtain ⟨hlibrary, hrest⟩ := List.forall_mem_cons.1 hgrows
    have hroot : (s.put library).registry.root = s.registry.root :=
      (Registry.root_create _ _).trans (hlibrary.root _ _ _)
    rw [populatedFrom, if_neg (not_finds hdot library), ih (hroot ▸ hdot) hrest]

end Session

/-! ## What a run puts in -/

/-- The libraries that are put in where a document is opened. -/
def Happening.populated : Happening n κ α γ → List (Library n κ α γ)
  | opened _ before _ => before.populated
  | _ => []

/-- The libraries that were put in. -/
def Trace.populated (trace : Trace n κ α γ) : List (Library n κ α γ) :=
  trace.flatMap Happening.populated

theorem Trace.populated_append (t u : Trace n κ α γ) :
    Trace.populated (t ++ u) = Trace.populated t ++ Trace.populated u :=
  List.flatMap_append

namespace Session

/-- A switch puts no library in. -/
theorem populated_switchTrace (cast : κ → Controller κ α γ) (s : Session n κ α γ) (name : String)
    (definition : Markup.Node) : Trace.populated (s.switchTrace cast name definition) = [] := by
  have hleave : Trace.populated s.leaveTrace = [] := by
    unfold leaveTrace
    split <;> rfl
  have henter (r : Session n κ α γ) (scene : Scene) :
      Trace.populated (r.enterTrace scene) = [] := by
    unfold enterTrace
    split <;> rfl
  rw [switchTrace, raiseTrace, Trace.populated_append, hleave, List.nil_append, Trace.populated,
    List.flatMap_cons, ← Trace.populated, Trace.populated_append, henter]
  rfl

/-- A session whose registry has its root, and whose libraries take nothing
away. -/
structure Sound (s : Session n κ α γ) : Prop where
  rooted : s.registry.Has []
  grows : ∀ library ∈ s.engine.libraries, library.Grows

variable [AssetService α] {cast : κ → Controller κ α γ} {s s' : Session n κ α γ}
  {t : Trace n κ α γ}

/-- **Every move puts in what its trace says**, and no other move than the opening
of a document puts in any. -/
theorem receives_move (hmove : Move cast s t s') (h : s.Sound) :
    s.registry.Receives ((Trace.populated t).map Library.path) s'.registry := by
  cases hmove with
  | openDocument document =>
    rw [Trace.populated, List.flatMap_singleton]
    exact receives_loadLibraries h.rooted h.grows
  | switchScene _ =>
    rw [registry_switchScene, populated_switchTrace]
    exact .refl _
  | click path event hscene =>
    unfold clicked
    split <;> exact .refl _
  | _ => exact .refl _

theorem receives_moves (hmoves : Moves cast s t s') (h : s.Sound) :
    s.registry.Receives ((Trace.populated t).map Library.path) s'.registry := by
  induction hmoves with
  | refl => exact .refl _
  | @snoc r s' t u hbefore hmove ih =>
    have hr : r.Sound := ⟨ih.grows [] h.rooted, hbefore.given.2 ▸ h.grows⟩
    rw [Trace.populated_append, List.map_append]
    exact ih.trans (receives_move hmove hr)

end Session

/-! ## Several engines at one registry -/

/-- What can be done to one of several engines. -/
inductive Task (n : Nat) (κ α γ : Type) where
  /-- Load the libraries. -/
  | loadLibraries
  /-- Register a library. -/
  | register (library : Library n κ α γ)
  | command (command : Command κ)

/-- A task that registers no library but one that takes nothing away. -/
def Task.Grows : Task n κ α γ → Prop
  | .register library => library.Grows
  | _ => True

namespace Session

variable [AssetService α] {cast : κ → Controller κ α γ} {s : Session n κ α γ}

/-- The session after a task. -/
def carryOut (cast : κ → Controller κ α γ) (s : Session n κ α γ) :
    Task n κ α γ → Session n κ α γ
  | .loadLibraries => s.loadLibraries
  | .register library => { s with engine := s.engine.addLibrary library }
  | .command command => s.perform cast command

/-- The libraries that a task puts in. -/
def populatedBy (cast : κ → Controller κ α γ) (s : Session n κ α γ) :
    Task n κ α γ → List (Library n κ α γ)
  | .loadLibraries => s.populated
  | .register _ => []
  | .command command => Trace.populated (s.performTrace cast command)

theorem receives_carryOut (cast : κ → Controller κ α γ) (h : s.Sound) {task : Task n κ α γ}
    (htask : task.Grows) :
    s.registry.Receives ((s.populatedBy cast task).map Library.path)
      (s.carryOut cast task).registry ∧ (s.carryOut cast task).Sound := by
  cases task with
  | loadLibraries =>
    have hreceives := receives_loadLibraries h.rooted h.grows
    refine ⟨hreceives, hreceives.grows [] h.rooted, ?_⟩
    rw [carryOut, engine_loadLibraries]
    exact h.grows
  | register library =>
    exact ⟨.refl _, h.rooted, List.forall_mem_append.2 ⟨h.grows,
      List.forall_mem_singleton.2 htask⟩⟩
  | command command =>
    have hmoves := moves_perform cast s command
    have hreceives := receives_moves hmoves h
    exact ⟨hreceives, hreceives.grows [] h.rooted, hmoves.given.2 ▸ h.grows⟩

end Session

namespace Theatre

theorem get_set {β : Type} (entries : Vector β n) (i j : Fin n) (entry : β) :
    (entries.set i.val entry i.isLt).get j = if i = j then entry else entries.get j := by
  have hset : (entries.set i.val entry i.isLt)[j.val] =
      if i.val = j.val then entry else entries[j.val] := Vector.getElem_set i.isLt j.isLt
  simp only [← Fin.ext_iff] at hset
  exact hset

variable [AssetService α] {cast : κ → Controller κ α γ} {theatre : Theatre n κ α γ}
  {place : Fin n}

/-- The theatre after a task of one of its engines. -/
def carryOut (cast : κ → Controller κ α γ) (theatre : Theatre n κ α γ) (i : Fin n)
    (task : Task n κ α γ) : Theatre n κ α γ :=
  theatre.resume i ((theatre.session i).carryOut cast task)

/-- The theatre after tasks in a row. -/
def run (cast : κ → Controller κ α γ) (theatre : Theatre n κ α γ)
    (tasks : List (Fin n × Task n κ α γ)) : Theatre n κ α γ :=
  tasks.foldl (fun theatre task => theatre.carryOut cast task.1 task.2) theatre

theorem uses_run (cast : κ → Controller κ α γ) (theatre : Theatre n κ α γ)
    (tasks : List (Fin n × Task n κ α γ)) : (theatre.run cast tasks).uses = theatre.uses := by
  induction tasks generalizing theatre with
  | nil => rfl
  | cons task rest ih => exact ih _

/-- The libraries that tasks in a row put into one of the registries. -/
def populated (cast : κ → Controller κ α γ) (place : Fin n) :
    Theatre n κ α γ → List (Fin n × Task n κ α γ) → List (Library n κ α γ)
  | _, [] => []
  | theatre, (i, task) :: rest =>
    (if theatre.uses.get i = place then (theatre.session i).populatedBy cast task else []) ++
      (theatre.carryOut cast i task).populated cast place rest

/-- Every session is sound. -/
def Sound (theatre : Theatre n κ α γ) : Prop :=
  ∀ i, (theatre.session i).Sound

omit [AssetService α] in
theorem registries_resume (theatre : Theatre n κ α γ) (i : Fin n) (s : Session n κ α γ)
    (place : Fin n) : (theatre.resume i s).registries.get place =
      if theatre.uses.get i = place then s.registry else theatre.registries.get place :=
  get_set ..

omit [AssetService α] in
theorem engines_resume (theatre : Theatre n κ α γ) (i : Fin n) (s : Session n κ α γ) (j : Fin n) :
    (theatre.resume i s).engines.get j = if i = j then s.engine else theatre.engines.get j :=
  get_set ..

/-- The task of an engine leaves every session sound. -/
theorem Sound.carryOut (cast : κ → Controller κ α γ) (h : theatre.Sound) (i : Fin n)
    {task : Task n κ α γ} (htask : task.Grows) : (theatre.carryOut cast i task).Sound := by
  obtain ⟨hreceives, hsound⟩ := Session.receives_carryOut cast (h i) htask
  intro j
  refine ⟨?_, ?_⟩
  · change ((theatre.resume i _).registries.get (theatre.uses.get j)).Has []
    rw [registries_resume]
    split
    · exact hsound.rooted
    · exact (h j).rooted
  · change ∀ library ∈ ((theatre.resume i _).engines.get j).libraries, library.Grows
    rw [engines_resume]
    split
    · exact hsound.grows
    · exact (h j).grows

/-- **What tasks in a row put into a registry**, whichever engines they are given
to. -/
theorem receives_run (cast : κ → Controller κ α γ) (h : theatre.Sound)
    {tasks : List (Fin n × Task n κ α γ)} (htasks : ∀ task ∈ tasks, task.2.Grows) (place : Fin n) :
    (theatre.registries.get place).Receives ((theatre.populated cast place tasks).map Library.path)
      ((theatre.run cast tasks).registries.get place) ∧ (theatre.run cast tasks).Sound := by
  induction tasks generalizing theatre with
  | nil => exact ⟨.refl _, h⟩
  | cons task rest ih =>
    obtain ⟨i, task⟩ := task
    obtain ⟨htask, hrest⟩ := List.forall_mem_cons.1 htasks
    obtain ⟨hlast, hsound⟩ := ih (h.carryOut cast i htask) hrest
    refine ⟨?_, hsound⟩
    have hfirst : (theatre.registries.get place).Receives
        ((if theatre.uses.get i = place then (theatre.session i).populatedBy cast task
          else []).map Library.path) ((theatre.carryOut cast i task).registries.get place) := by
      rw [Theatre.carryOut, registries_resume]
      split
      next hplace =>
        subst hplace
        exact (Session.receives_carryOut cast (h i) htask).1
      next => exact .refl _
    rw [populated, List.map_append]
    exact hfirst.trans hlast

omit [AssetService α] in
/-- What an engine leaves is what it finds when it goes on. -/
theorem session_resume (theatre : Theatre n κ α γ) {i : Fin n} {s : Session n κ α γ}
    (h : s.id = i) : (theatre.resume i s).session i = s := by
  have hengine := engines_resume theatre i s i
  have hregistry := registries_resume theatre i s (theatre.uses.get i)
  rw [if_pos rfl] at hengine hregistry
  subst h
  rw [session, hengine]
  exact congrArg (fun registry => { s with registry }) hregistry

end Theatre

namespace Session

theorem id_loadLibraries (s : Session n κ α γ) : s.loadLibraries.id = s.id := by
  rw [loadLibraries_eq]

/-- **Loading the libraries again changes nothing**, where the name of the root
has no dot. -/
theorem loadLibraries_loadLibraries {s : Session n κ α γ} (h : s.Sound)
    (hdot : '.' ∉ s.registry.root.toList) : s.loadLibraries.loadLibraries = s.loadLibraries := by
  refine loadLibraries_of_finds fun library hlibrary => ?_
  rw [engine_loadLibraries] at hlibrary
  have hroot := (receives_loadLibraries h.rooted h.grows).root
  exact (finds_iff (hroot ▸ hdot) library).2
    (has_foldl_loadLibrary hdot h.rooted h.grows library hlibrary)

end Session

/-- A library that puts in nothing. -/
def Library.idle : Library n κ α γ where
  name := ""
  populate _ registry world := (registry, world)

theorem Library.grows_idle : (Library.idle : Library n κ α γ).Grows :=
  ⟨fun _ _ _ => rfl, fun _ _ _ _ h => h⟩

namespace Theatre

variable [AssetService α]

/-- Where the name of the root has a dot, loading the libraries twice puts all of
them in twice. -/
theorem populated_twice {theatre : Theatre n κ α γ} (h : theatre.Sound) {i : Fin n}
    (hdot : '.' ∈ (theatre.session i).registry.root.toList) (cast : κ → Controller κ α γ) :
    theatre.populated cast (theatre.uses.get i) [(i, .loadLibraries), (i, .loadLibraries)] =
      (theatre.engines.get i).libraries ++ (theatre.engines.get i).libraries := by
  have hnext : (theatre.carryOut cast i .loadLibraries).session i =
      (theatre.session i).loadLibraries :=
    session_resume theatre (Session.id_loadLibraries _)
  have hroot := (Session.receives_loadLibraries (h i).rooted (h i).grows).root
  have hfirst := Session.populated_of_mem hdot (h i).grows
  have hsecond : (theatre.session i).loadLibraries.populated =
      (theatre.session i).engine.libraries := by
    rw [Session.populated_of_mem (hroot ▸ hdot), Session.engine_loadLibraries]
    rw [Session.engine_loadLibraries]
    exact (h i).grows
  have huses : (theatre.carryOut cast i .loadLibraries).uses = theatre.uses := rfl
  rw [populated, populated, populated, huses, if_pos rfl, if_pos rfl, hnext]
  simp only [Session.populatedBy, hfirst, hsecond, List.append_nil]
  rfl

/-- Then an engine at that registry can put some library in twice: it takes one
library and two loads. -/
theorem exists_not_nodup_populated {theatre : Theatre n κ α γ} (h : theatre.Sound) {i : Fin n}
    (hdot : '.' ∈ (theatre.session i).registry.root.toList) (cast : κ → Controller κ α γ) :
    ∃ tasks : List (Fin n × Task n κ α γ), (∀ task ∈ tasks, task.2.Grows) ∧
      ¬ ((theatre.populated cast (theatre.uses.get i) tasks).map Library.path).Nodup := by
  let supplied := theatre.carryOut cast i (.register .idle)
  have hnext : supplied.session i = (theatre.session i).carryOut cast (.register .idle) :=
    session_resume theatre rfl
  have hsound : supplied.Sound := h.carryOut cast i Library.grows_idle
  have htwice : supplied.populated cast (theatre.uses.get i)
      [(i, .loadLibraries), (i, .loadLibraries)] =
        (supplied.engines.get i).libraries ++ (supplied.engines.get i).libraries :=
    populated_twice hsound (hnext ▸ hdot) cast
  have hidle : Library.idle ∈ (supplied.engines.get i).libraries := by
    have hengine : supplied.engines.get i = _ := congrArg Session.engine hnext
    rw [hengine]
    exact List.mem_append_right _ (List.mem_singleton_self _)
  refine ⟨[(i, .register .idle), (i, .loadLibraries), (i, .loadLibraries)], ?_, fun hnodup => ?_⟩
  · simp [Task.Grows, Library.grows_idle]
  · rw [populated, if_pos rfl, Session.populatedBy, List.nil_append, htwice, List.map_append]
      at hnodup
    exact (List.nodup_append.1 hnodup).2.2 _ (List.mem_map_of_mem hidle) _
      (List.mem_map_of_mem hidle) rfl

/-- **Libraries come to a registry at most once** exactly when the name of its
root has no dot: whichever engines use it, whatever libraries they have or are
given, and in whatever order they load documents, libraries and the stage. Then
loading the libraries again changes nothing. -/
theorem nodup_populated_iff {theatre : Theatre n κ α γ} (h : theatre.Sound) {place : Fin n}
    (hused : ∃ i, theatre.uses.get i = place) :
    ((∀ (cast : κ → Controller κ α γ) (tasks : List (Fin n × Task n κ α γ)),
        (∀ task ∈ tasks, task.2.Grows) →
          ((theatre.populated cast place tasks).map Library.path).Nodup) ↔
      '.' ∉ (theatre.registries.get place).root.toList) ∧
    ('.' ∉ (theatre.registries.get place).root.toList →
      ∀ (cast : κ → Controller κ α γ) (tasks : List (Fin n × Task n κ α γ)),
        (∀ task ∈ tasks, task.2.Grows) → ∀ i, theatre.uses.get i = place →
          ((theatre.run cast tasks).session i).loadLibraries.loadLibraries =
            ((theatre.run cast tasks).session i).loadLibraries) := by
  refine ⟨⟨fun hall hdot => ?_, fun hdot cast tasks htasks => ?_⟩,
    fun hdot cast tasks htasks i hplace => ?_⟩
  · obtain ⟨i, rfl⟩ := hused
    obtain ⟨tasks, hgrows, htwice⟩ := exists_not_nodup_populated h hdot fun _ => {}
    exact htwice (hall _ tasks hgrows)
  · exact ((receives_run cast h htasks place).1.fresh hdot).1
  · obtain ⟨hreceives, hsound⟩ := receives_run cast h htasks place
    refine Session.loadLibraries_loadLibraries (hsound i) ?_
    have hroot : ((theatre.run cast tasks).session i).registry.root =
        (theatre.registries.get place).root := by
      rw [← hreceives.root, ← hplace, ← uses_run cast theatre tasks]
      rfl
    rwa [hroot]

/-- Two engines at one registry. -/
def twins : Theatre 2 Unit SkinAssets Unit where
  engines := .replicate 2 (Engine.ofConfig {} (MemorySource.load []))
  registries := .replicate 2 { root := "ROOT" }
  uses := .replicate 2 0
  world := { offices := .replicate 2 { scope := {}, assets := {} }, host := () }

/-- However the twins take turns, the libraries come once. -/
theorem nodup_populated_iff_twins :
    (twins.Sound ∧ ∃ i, twins.uses.get i = 0) ∧
      ((∀ (cast : Unit → Controller Unit SkinAssets Unit)
          (tasks : List (Fin 2 × Task 2 Unit SkinAssets Unit)),
          (∀ task ∈ tasks, task.2.Grows) →
            ((twins.populated cast 0 tasks).map Library.path).Nodup) ↔
        '.' ∉ (twins.registries.get 0).root.toList) ∧
      (twins.populated (fun _ => {}) 0 [(0, .loadLibraries), (1, .loadLibraries)]).map
        Library.path = [["stagecraft", "scene2d"]] := by
  have hsound : twins.Sound := fun
    | 0 => ⟨rfl, List.forall_mem_singleton.2 Library.grows_builtin⟩
    | 1 => ⟨rfl, List.forall_mem_singleton.2 Library.grows_builtin⟩
  have hused : ∃ i, twins.uses.get i = 0 := ⟨0, rfl⟩
  exact ⟨⟨hsound, hused⟩, (nodup_populated_iff hsound hused).1, by decide +kernel⟩

/-- An engine whose root has a dot in its name. -/
def kiosk : Theatre 1 Unit SkinAssets Unit where
  engines := .replicate 1 (Engine.ofConfig { rootNamespace := "my.app" } (MemorySource.load []))
  registries := .replicate 1 { root := "my.app" }
  uses := .ofFn id
  world := { offices := .replicate 1 { scope := {}, assets := {} }, host := () }

/-- **A library can come twice**, and all its directives with it. -/
theorem not_nodup_populated_kiosk :
    let cast : Unit → Controller Unit SkinAssets Unit := fun _ => {}
    let once : List (Fin 1 × Task 1 Unit SkinAssets Unit) := [(0, .loadLibraries)]
    ¬ ((kiosk.populated cast 0 (once ++ once)).map Library.path).Nodup ∧
      (((kiosk.run cast once).registries.get 0).find? Library.builtinName).map
        (·.elements.length) = some 11 ∧
      (((kiosk.run cast (once ++ once)).registries.get 0).find? Library.builtinName).map
        (·.elements.length) = some 22 := by
  decide +kernel

end Theatre

end SceneScript
