import SetProtocol.Core.ModuleBase
import SetProtocol.Lib.Overwrite
import SetProtocol.Lib.Transition

set_option relaxedAutoImplicit false
set_option autoImplicit false

/-!
# The integration registry

`contracts/protocol/IntegrationRegistry.sol`, where the owner of the protocol names the adapters
that each module may use. Modules look an adapter up by the hash of its name.

Entries are added, edited and removed one at a time, or added and edited in batches. A batch is all
or nothing: a batch of additions passes when each of its entries is new, also among themselves, and
a batch of edits when none is new. In a batch of edits the last one of a key counts.

## Main definitions

* `SetProtocol.IntegrationRegistry` — the storage.
* `SetProtocol.IntegrationRegistry.addIntegration`, `editIntegration`, `removeIntegration`,
  `batchAddIntegration`, `batchEditIntegration` — the functions of the owner.
* `SetProtocol.IntegrationRegistry.entries` — what a batch writes.

## Main results

* `SetProtocol.IntegrationRegistry.adapters_of_batchAddIntegration` — which batches of additions
  pass, and which adapters the modules find then.
* `SetProtocol.IntegrationRegistry.adapters_of_batchEditIntegration` — the same for batches of
  edits.
* `SetProtocol.IntegrationRegistry.approved_of_run` — modules find only what the owner has written.
-/

namespace SetProtocol

open Checked Overwrite Transition

/-- The storage of the registry. -/
structure IntegrationRegistry where
  /-- The account that governs the protocol. -/
  owner : Address := zeroAddress
  /-- The adapter of each module and name, by the hash of the name. -/
  integrations : Address → ℕ → Address := fun _ _ => zeroAddress

namespace IntegrationRegistry

/-! ## Functions -/

/-- Write an entry. -/
def write (r : IntegrationRegistry) (module : Address) (hashedName : ℕ) (adapter : Address) :
    IntegrationRegistry :=
  { r with
    integrations := Function.update r.integrations module
      (Function.update (r.integrations module) hashedName adapter) }

/-- The body that `addIntegration` and `editIntegration` share: they differ in which entries may be
written. -/
def writeIntegration (c : Controller) (keccak256 : String → ℕ) (mayWrite : Address → Bool)
    (reason : Revert) (r : IntegrationRegistry) (msgSender module : Address) (name : String)
    (adapter : Address) : Except Revert IntegrationRegistry := do
  require (msgSender = r.owner) "Ownable: caller is not the owner"
  let hashedName := keccak256 name
  require (c.isModule module = true) "Must be valid module."
  require (mayWrite (r.integrations module hashedName) = true) reason
  require (adapter ≠ zeroAddress) "Adapter address must exist."
  return r.write module hashedName adapter

/-- `addIntegration`. -/
def addIntegration (c : Controller) (keccak256 : String → ℕ) (r : IntegrationRegistry)
    (msgSender module : Address) (name : String) (adapter : Address) :
    Except Revert IntegrationRegistry :=
  writeIntegration c keccak256 (fun existing => existing = zeroAddress)
    "Integration exists already." r msgSender module name adapter

/-- `editIntegration`. -/
def editIntegration (c : Controller) (keccak256 : String → ℕ) (r : IntegrationRegistry)
    (msgSender module : Address) (name : String) (adapter : Address) :
    Except Revert IntegrationRegistry :=
  writeIntegration c keccak256 (fun existing => existing ≠ zeroAddress)
    "Integration does not exist." r msgSender module name adapter

/-- The body that `batchAddIntegration` and `batchEditIntegration` share. -/
def batch (writeOne : IntegrationRegistry → Address → String → Address →
      Except Revert IntegrationRegistry)
    (r : IntegrationRegistry) (msgSender : Address) (modules : List Address) (names : List String)
    (adapters : List Address) : Except Revert IntegrationRegistry := do
  require (msgSender = r.owner) "Ownable: caller is not the owner"
  require (0 < modules.length) "Modules must not be empty"
  require (modules.length = names.length) "Module and name lengths mismatch"
  require (modules.length = adapters.length) "Module and adapter lengths mismatch"
  (modules.zip (names.zip adapters)).foldlM
    (fun r entry => writeOne r entry.1 entry.2.1 entry.2.2) r

/-- `batchAddIntegration`. -/
def batchAddIntegration (c : Controller) (keccak256 : String → ℕ) (r : IntegrationRegistry)
    (msgSender : Address) (modules : List Address) (names : List String) (adapters : List Address) :
    Except Revert IntegrationRegistry :=
  r.batch (fun r => addIntegration c keccak256 r msgSender) msgSender modules names adapters

/-- `batchEditIntegration`. -/
def batchEditIntegration (c : Controller) (keccak256 : String → ℕ) (r : IntegrationRegistry)
    (msgSender : Address) (modules : List Address) (names : List String) (adapters : List Address) :
    Except Revert IntegrationRegistry :=
  r.batch (fun r => editIntegration c keccak256 r msgSender) msgSender modules names adapters

/-- `removeIntegration`. -/
def removeIntegration (keccak256 : String → ℕ) (r : IntegrationRegistry)
    (msgSender module : Address) (name : String) : Except Revert IntegrationRegistry := do
  require (msgSender = r.owner) "Ownable: caller is not the owner"
  let hashedName := keccak256 name
  require (r.integrations module hashedName ≠ zeroAddress) "Integration does not exist."
  return r.write module hashedName zeroAddress

/-- `transferOwnership`, inherited from `Ownable`. -/
def transferOwnership (r : IntegrationRegistry) (msgSender newOwner : Address) :
    Except Revert IntegrationRegistry := do
  require (msgSender = r.owner) "Ownable: caller is not the owner"
  require (newOwner ≠ zeroAddress) "Ownable: new owner is the zero address"
  return { r with owner := newOwner }

/-- `renounceOwnership`, inherited from `Ownable`. -/
def renounceOwnership (r : IntegrationRegistry) (msgSender : Address) :
    Except Revert IntegrationRegistry := do
  require (msgSender = r.owner) "Ownable: caller is not the owner"
  return { r with owner := zeroAddress }

/-! ## Batches -/

/-- The adapter of a key. -/
def find (r : IntegrationRegistry) (key : Address × ℕ) : Address := r.integrations key.1 key.2

/-- What a batch writes: keys with their adapters. -/
def entries (keccak256 : String → ℕ) (modules : List Address) (names : List String)
    (adapters : List Address) : List ((Address × ℕ) × Address) :=
  (modules.zip (names.zip adapters)).map fun entry =>
    ((entry.1, keccak256 entry.2.1), entry.2.2)

/-- An entry may be written for a module, and has an adapter. -/
def Allowed (c : Controller) (entry : (Address × ℕ) × Address) : Prop :=
  c.isModule entry.1.1 = true ∧ entry.2 ≠ zeroAddress

variable {c : Controller} {keccak256 : String → ℕ} {r r' : IntegrationRegistry}
  {msgSender module adapter : Address} {name : String} {modules adapters : List Address}
  {names : List String} {l : List (Address × String × Address)}

/-- A registry is its owner and its adapters. -/
theorem eq_iff_find : r = r' ↔ r'.owner = r.owner ∧ r'.find = r.find := by
  constructor
  · rintro rfl
    exact ⟨rfl, rfl⟩
  · rintro ⟨howner, hfind⟩
    obtain ⟨owner, integrations⟩ := r
    obtain ⟨owner', integrations'⟩ := r'
    obtain rfl : owner' = owner := howner
    congr
    funext module hashedName
    exact (congrFun hfind (module, hashedName)).symm

/-- A write changes the adapter of its key. -/
theorem find_write (r : IntegrationRegistry) (module : Address) (hashedName : ℕ)
    (adapter : Address) :
    (r.write module hashedName adapter).find =
      Function.update r.find (module, hashedName) adapter := by
  funext ⟨m, h⟩
  simp only [find, write, Function.update_apply, Prod.mk.injEq]
  by_cases hm : m = module
  · subst hm
    simp only [true_and, if_true, Function.update_apply]
  · simp only [hm, false_and, if_false]

/-- An entry is written where it may be. -/
theorem writeIntegration_eq_ok {mayWrite : Address → Bool} {reason : Revert} :
    writeIntegration c keccak256 mayWrite reason r msgSender module name adapter = .ok r' ↔
      msgSender = r.owner ∧ Allowed c ((module, keccak256 name), adapter) ∧
        mayWrite (r.find (module, keccak256 name)) = true ∧
        r.write module (keccak256 name) adapter = r' := by
  simp only [writeIntegration, bind_eq_ok, require_eq_ok, pure_eq_ok, exists_const, Allowed, find]
  tauto

/-- The first entry of a batch, and the others. -/
theorem entries_cons (keccak256 : String → ℕ) (module : Address) (name : String)
    (adapter : Address) (l : List (Address × String × Address)) :
    ((module, name, adapter) :: l).map (fun entry =>
        ((entry.1, keccak256 entry.2.1), entry.2.2)) =
      ((module, keccak256 name), adapter) :: l.map fun entry =>
        ((entry.1, keccak256 entry.2.1), entry.2.2) := rfl

/-- The loop over additions passes when its entries are new, also among themselves. -/
theorem foldlM_addIntegration_eq_ok (howner : msgSender = r.owner) :
    l.foldlM (fun r entry => addIntegration c keccak256 r msgSender entry.1 entry.2.1 entry.2.2) r =
        .ok r' ↔
      (∀ entry ∈ l.map fun entry => ((entry.1, keccak256 entry.2.1), entry.2.2),
          Allowed c entry ∧ r.find entry.1 = zeroAddress) ∧
        ((l.map fun entry => ((entry.1, keccak256 entry.2.1), entry.2.2)).map Prod.fst).Nodup ∧
        r'.owner = r.owner ∧
        r'.find = overwrite r.find (l.map fun entry =>
          ((entry.1, keccak256 entry.2.1), entry.2.2)) := by
  induction l generalizing r with
  | nil =>
    simp only [List.foldlM_nil, pure_eq_ok, List.map_nil, List.nodup_nil, overwrite_nil, true_and,
      List.not_mem_nil, false_implies, implies_true, eq_iff_find]
  | cons entry l ih =>
    obtain ⟨module, name, adapter⟩ := entry
    rw [foldlM_cons_eq_ok, entries_cons, List.map_cons, List.nodup_cons, overwrite_cons,
      List.forall_mem_cons]
    simp only [addIntegration, writeIntegration_eq_ok]
    have hnext : msgSender = (r.write module (keccak256 name) adapter).owner := howner
    -- a key is new after the write when it is another one that was new before
    have hnew : ∀ key, adapter ≠ zeroAddress →
        ((r.write module (keccak256 name) adapter).find key = zeroAddress ↔
          key ≠ (module, keccak256 name) ∧ r.find key = zeroAddress) := by
      intro key hadapter
      rw [find_write]
      rcases eq_or_ne key (module, keccak256 name) with rfl | hne
      · rw [Function.update_self]
        exact ⟨fun h => absurd h hadapter, fun h => absurd rfl h.1⟩
      · rw [Function.update_of_ne hne]
        exact ⟨fun h => ⟨hne, h⟩, And.right⟩
    constructor
    · rintro ⟨_, ⟨-, hallowed, hfree, rfl⟩, hrest⟩
      obtain ⟨hentries, hnodup, hsame, hfind⟩ := (ih hnext).mp hrest
      refine ⟨⟨⟨hallowed, of_decide_eq_true hfree⟩, fun entry hentry => ?_⟩, ⟨?_, hnodup⟩, hsame,
        by rw [hfind, find_write]⟩
      · obtain ⟨hother, hvacant⟩ := hentries entry hentry
        exact ⟨hother, ((hnew _ hallowed.2).mp hvacant).2⟩
      · intro hmem
        obtain ⟨entry, hentry, hkey⟩ := List.mem_map.mp hmem
        exact ((hnew _ hallowed.2).mp (hentries entry hentry).2).1 hkey
    · rintro ⟨⟨⟨hallowed, hfree⟩, hentries⟩, ⟨hnot, hnodup⟩, hsame, hfind⟩
      refine ⟨_, ⟨howner, hallowed, decide_eq_true hfree, rfl⟩, (ih hnext).mpr ⟨?_, hnodup, hsame,
        by rw [hfind, find_write]⟩⟩
      intro entry hentry
      obtain ⟨hother, hvacant⟩ := hentries entry hentry
      refine ⟨hother, (hnew _ hallowed.2).mpr ⟨?_, hvacant⟩⟩
      rintro hkey
      exact hnot (List.mem_map.mpr ⟨entry, hentry, hkey⟩)

/-- The loop over edits passes when none of its entries is new. -/
theorem foldlM_editIntegration_eq_ok (howner : msgSender = r.owner) :
    l.foldlM (fun r entry => editIntegration c keccak256 r msgSender entry.1 entry.2.1 entry.2.2)
        r = .ok r' ↔
      (∀ entry ∈ l.map fun entry => ((entry.1, keccak256 entry.2.1), entry.2.2),
          Allowed c entry ∧ r.find entry.1 ≠ zeroAddress) ∧
        r'.owner = r.owner ∧
        r'.find = overwrite r.find (l.map fun entry =>
          ((entry.1, keccak256 entry.2.1), entry.2.2)) := by
  induction l generalizing r with
  | nil =>
    simp only [List.foldlM_nil, pure_eq_ok, List.map_nil, overwrite_nil, true_and,
      List.not_mem_nil, false_implies, implies_true, eq_iff_find]
  | cons entry l ih =>
    obtain ⟨module, name, adapter⟩ := entry
    rw [foldlM_cons_eq_ok, entries_cons, overwrite_cons, List.forall_mem_cons]
    simp only [editIntegration, writeIntegration_eq_ok]
    have hnext : msgSender = (r.write module (keccak256 name) adapter).owner := howner
    -- the write adds no key and removes none
    have hold : ∀ key, adapter ≠ zeroAddress → r.find (module, keccak256 name) ≠ zeroAddress →
        ((r.write module (keccak256 name) adapter).find key ≠ zeroAddress ↔
          r.find key ≠ zeroAddress) := by
      intro key hadapter hexists
      rw [find_write]
      rcases eq_or_ne key (module, keccak256 name) with rfl | hne
      · rw [Function.update_self]
        exact ⟨fun _ => hexists, fun _ => hadapter⟩
      · rw [Function.update_of_ne hne]
    constructor
    · rintro ⟨_, ⟨-, hallowed, hexists, rfl⟩, hrest⟩
      obtain ⟨hentries, hsame, hfind⟩ := (ih hnext).mp hrest
      have hexists := of_decide_eq_true hexists
      refine ⟨⟨⟨hallowed, hexists⟩, fun entry hentry => ?_⟩, hsame, by rw [hfind, find_write]⟩
      obtain ⟨hother, hfound⟩ := hentries entry hentry
      exact ⟨hother, (hold _ hallowed.2 hexists).mp hfound⟩
    · rintro ⟨⟨⟨hallowed, hexists⟩, hentries⟩, hsame, hfind⟩
      refine ⟨_, ⟨howner, hallowed, decide_eq_true hexists, rfl⟩, (ih hnext).mpr ⟨?_, hsame,
        by rw [hfind, find_write]⟩⟩
      intro entry hentry
      obtain ⟨hother, hfound⟩ := hentries entry hentry
      exact ⟨hother, (hold _ hallowed.2 hexists).mpr hfound⟩

/-- A batch of additions passes when the owner sends it, its lists have one positive length, its
entries are allowed, and no key is taken, neither before nor within the batch. -/
theorem batchAddIntegration_eq_ok :
    r.batchAddIntegration c keccak256 msgSender modules names adapters = .ok r' ↔
      msgSender = r.owner ∧ 0 < modules.length ∧ modules.length = names.length ∧
        modules.length = adapters.length ∧
        (∀ entry ∈ entries keccak256 modules names adapters,
          Allowed c entry ∧ r.find entry.1 = zeroAddress) ∧
        ((entries keccak256 modules names adapters).map Prod.fst).Nodup ∧
        r'.owner = r.owner ∧
        r'.find = overwrite r.find (entries keccak256 modules names adapters) := by
  simp only [batchAddIntegration, batch, bind_eq_ok, require_eq_ok, exists_const]
  refine and_congr_right fun howner => and_congr_right fun _ => and_congr_right fun _ =>
    and_congr_right fun _ => ?_
  exact foldlM_addIntegration_eq_ok howner

/-- A batch of edits passes when the owner sends it, its lists have one positive length, its entries
are allowed, and every key is taken. -/
theorem batchEditIntegration_eq_ok :
    r.batchEditIntegration c keccak256 msgSender modules names adapters = .ok r' ↔
      msgSender = r.owner ∧ 0 < modules.length ∧ modules.length = names.length ∧
        modules.length = adapters.length ∧
        (∀ entry ∈ entries keccak256 modules names adapters,
          Allowed c entry ∧ r.find entry.1 ≠ zeroAddress) ∧
        r'.owner = r.owner ∧
        r'.find = overwrite r.find (entries keccak256 modules names adapters) := by
  simp only [batchEditIntegration, batch, bind_eq_ok, require_eq_ok, exists_const]
  refine and_congr_right fun howner => and_congr_right fun _ => and_congr_right fun _ =>
    and_congr_right fun _ => ?_
  exact foldlM_editIntegration_eq_ok howner

/-! ## What modules find -/

section Modules

variable {env : Env} {w w' : World} {self : Address}

/-- A module finds the adapter of its key, if there is one. -/
theorem getAndValidateAdapter_eq_ok (hw : w.integrations = r.integrations) :
    ModuleBase.getAndValidateAdapter self env w name = .ok adapter ↔
      r.find (self, env.keccak256 name) = adapter ∧ adapter ≠ zeroAddress := by
  simp only [ModuleBase.getAndValidateAdapter, ModuleBase.getAndValidateAdapterWithHash, hw,
    bind_eq_ok, require_eq_ok, pure_eq_ok, exists_const, find]
  constructor
  · rintro ⟨hne, rfl⟩
    exact ⟨rfl, hne⟩
  · rintro ⟨rfl, hne⟩
    exact ⟨hne, rfl⟩

/-- A key without an entry is as it was. -/
theorem getAndValidateAdapter_of_notMem {l : List ((Address × ℕ) × Address)}
    (hw : w.integrations = r.integrations) (hw' : w'.integrations = r'.integrations)
    (hfind : r'.find = overwrite r.find l)
    (hkey : (self, env.keccak256 name) ∉ l.map Prod.fst) :
    ModuleBase.getAndValidateAdapter self env w' name = .ok adapter ↔
      ModuleBase.getAndValidateAdapter self env w name = .ok adapter := by
  rw [getAndValidateAdapter_eq_ok hw, getAndValidateAdapter_eq_ok hw', hfind,
    overwrite_of_notMem hkey]

/-- **A batch of additions is all or nothing**: it passes when the owner sends it, its lists have
one positive length, its modules are enabled, its adapters exist, and no key is taken, neither
before nor within the batch. Every module then finds the adapters of the batch for its names in it,
and under other names what it found before. -/
theorem adapters_of_batchAddIntegration :
    ((∃ r', r.batchAddIntegration c env.keccak256 msgSender modules names adapters = .ok r') ↔
      msgSender = r.owner ∧ 0 < modules.length ∧ modules.length = names.length ∧
        modules.length = adapters.length ∧
        (∀ entry ∈ entries env.keccak256 modules names adapters,
          Allowed c entry ∧ r.find entry.1 = zeroAddress) ∧
        ((entries env.keccak256 modules names adapters).map Prod.fst).Nodup) ∧
    ∀ r' w w' self name adapter,
      r.batchAddIntegration c env.keccak256 msgSender modules names adapters = .ok r' →
      w.integrations = r.integrations → w'.integrations = r'.integrations →
      (ModuleBase.getAndValidateAdapter self env w' name = .ok adapter ↔
        ((self, env.keccak256 name), adapter) ∈ entries env.keccak256 modules names adapters ∨
          (self, env.keccak256 name) ∉
              (entries env.keccak256 modules names adapters).map Prod.fst ∧
            ModuleBase.getAndValidateAdapter self env w name = .ok adapter) := by
  constructor
  · constructor
    · rintro ⟨r', h⟩
      obtain ⟨howner, hpos, hnames, hadapters, hentries, hnodup, -, -⟩ :=
        batchAddIntegration_eq_ok.mp h
      exact ⟨howner, hpos, hnames, hadapters, hentries, hnodup⟩
    · rintro ⟨howner, hpos, hnames, hadapters, hentries, hnodup⟩
      refine ⟨⟨r.owner, fun module hashedName =>
        overwrite r.find (entries env.keccak256 modules names adapters) (module, hashedName)⟩, ?_⟩
      exact batchAddIntegration_eq_ok.mpr
        ⟨howner, hpos, hnames, hadapters, hentries, hnodup, rfl, rfl⟩
  · intro r' w w' self name adapter h hw hw'
    obtain ⟨-, -, -, -, hentries, hnodup, -, hfind⟩ := batchAddIntegration_eq_ok.mp h
    by_cases hkey : (self, env.keccak256 name) ∈
        (entries env.keccak256 modules names adapters).map Prod.fst
    · obtain ⟨⟨key, written⟩, hmem, rfl⟩ := List.mem_map.mp hkey
      rw [getAndValidateAdapter_eq_ok hw', hfind, overwrite_of_mem hnodup hmem]
      constructor
      · rintro ⟨rfl, -⟩
        exact Or.inl hmem
      · rintro (hentry | ⟨hnot, -⟩)
        · have hsame := overwrite_of_mem (f := r.find) hnodup hentry
          rw [overwrite_of_mem hnodup hmem] at hsame
          exact ⟨hsame, (hentries _ hentry).1.2⟩
        · exact absurd hkey hnot
    · rw [getAndValidateAdapter_of_notMem hw hw' hfind hkey]
      constructor
      · exact fun hfound => Or.inr ⟨hkey, hfound⟩
      · rintro (hentry | ⟨-, hfound⟩)
        · exact absurd (List.mem_map_of_mem hentry) hkey
        · exact hfound

/-- **A batch of edits is all or nothing**: it passes when the owner sends it, its lists have one
positive length, its modules are enabled, its adapters exist, and every key is taken. Every module
then finds the last adapter that the batch has for a name, and under other names what it found
before. -/
theorem adapters_of_batchEditIntegration :
    ((∃ r', r.batchEditIntegration c env.keccak256 msgSender modules names adapters = .ok r') ↔
      msgSender = r.owner ∧ 0 < modules.length ∧ modules.length = names.length ∧
        modules.length = adapters.length ∧
        ∀ entry ∈ entries env.keccak256 modules names adapters,
          Allowed c entry ∧ r.find entry.1 ≠ zeroAddress) ∧
    ∀ r' w w' self name adapter,
      r.batchEditIntegration c env.keccak256 msgSender modules names adapters = .ok r' →
      w.integrations = r.integrations → w'.integrations = r'.integrations →
      (ModuleBase.getAndValidateAdapter self env w' name = .ok adapter ↔
        (∃ pre post, entries env.keccak256 modules names adapters =
            pre ++ ((self, env.keccak256 name), adapter) :: post ∧
          (self, env.keccak256 name) ∉ post.map Prod.fst) ∨
        (self, env.keccak256 name) ∉
            (entries env.keccak256 modules names adapters).map Prod.fst ∧
          ModuleBase.getAndValidateAdapter self env w name = .ok adapter) := by
  constructor
  · constructor
    · rintro ⟨r', h⟩
      obtain ⟨howner, hpos, hnames, hadapters, hentries, -, -⟩ := batchEditIntegration_eq_ok.mp h
      exact ⟨howner, hpos, hnames, hadapters, hentries⟩
    · rintro ⟨howner, hpos, hnames, hadapters, hentries⟩
      refine ⟨⟨r.owner, fun module hashedName =>
        overwrite r.find (entries env.keccak256 modules names adapters) (module, hashedName)⟩, ?_⟩
      exact batchEditIntegration_eq_ok.mpr ⟨howner, hpos, hnames, hadapters, hentries, rfl, rfl⟩
  · intro r' w w' self name adapter h hw hw'
    obtain ⟨-, -, -, -, hentries, -, hfind⟩ := batchEditIntegration_eq_ok.mp h
    by_cases hkey : (self, env.keccak256 name) ∈
        (entries env.keccak256 modules names adapters).map Prod.fst
    · obtain ⟨pre, written, post, hsplit, hpost⟩ := exists_last hkey
      have hallowed := hentries ((self, env.keccak256 name), written) (by rw [hsplit]; simp)
      rw [getAndValidateAdapter_eq_ok hw', hfind, hsplit, overwrite_of_last hpost]
      constructor
      · rintro ⟨rfl, -⟩
        exact Or.inl ⟨pre, post, rfl, hpost⟩
      · rintro (⟨pre', post', hsplit', hpost'⟩ | ⟨hnot, -⟩)
        · have hsame : overwrite r.find
              (pre ++ ((self, env.keccak256 name), written) :: post) (self, env.keccak256 name) =
                written := overwrite_of_last hpost
          rw [hsplit', overwrite_of_last hpost'] at hsame
          subst hsame
          exact ⟨rfl, hallowed.1.2⟩
        · rw [← hsplit] at hnot
          exact absurd hkey hnot
    · rw [getAndValidateAdapter_of_notMem hw hw' hfind hkey]
      constructor
      · exact fun hfound => Or.inr ⟨hkey, hfound⟩
      · rintro (⟨pre, post, hsplit, -⟩ | ⟨-, hfound⟩)
        · exact absurd (by rw [hsplit]; simp) hkey
        · exact hfound

end Modules

/-! ## Runs -/

/-- A call of a function of the registry that writes. -/
inductive Action
  | addIntegration (msgSender module : Address) (name : String) (adapter : Address)
  | editIntegration (msgSender module : Address) (name : String) (adapter : Address)
  | batchAddIntegration (msgSender : Address) (modules : List Address) (names : List String)
    (adapters : List Address)
  | batchEditIntegration (msgSender : Address) (modules : List Address) (names : List String)
    (adapters : List Address)
  | removeIntegration (msgSender module : Address) (name : String)
  | transferOwnership (msgSender newOwner : Address)
  | renounceOwnership (msgSender : Address)

/-- The effect of a call, with the controller as it is at that time. -/
def step (keccak256 : String → ℕ) : Controller × Action → IntegrationRegistry →
    Except Revert IntegrationRegistry
  | (c, .addIntegration msgSender module name adapter), r =>
    r.addIntegration c keccak256 msgSender module name adapter
  | (c, .editIntegration msgSender module name adapter), r =>
    r.editIntegration c keccak256 msgSender module name adapter
  | (c, .batchAddIntegration msgSender modules names adapters), r =>
    r.batchAddIntegration c keccak256 msgSender modules names adapters
  | (c, .batchEditIntegration msgSender modules names adapters), r =>
    r.batchEditIntegration c keccak256 msgSender modules names adapters
  | (_, .removeIntegration msgSender module name), r =>
    r.removeIntegration keccak256 msgSender module name
  | (_, .transferOwnership msgSender newOwner), r => r.transferOwnership msgSender newOwner
  | (_, .renounceOwnership msgSender), r => r.renounceOwnership msgSender

/-- The entries that a call names. -/
def Action.writes (keccak256 : String → ℕ) : Action → List ((Address × ℕ) × Address)
  | .addIntegration _ module name adapter => [((module, keccak256 name), adapter)]
  | .editIntegration _ module name adapter => [((module, keccak256 name), adapter)]
  | .batchAddIntegration _ modules names adapters => entries keccak256 modules names adapters
  | .batchEditIntegration _ modules names adapters => entries keccak256 modules names adapters
  | _ => []

/-- `msg.sender` of a call. -/
def Action.sender : Action → Address
  | .addIntegration msgSender _ _ _ => msgSender
  | .editIntegration msgSender _ _ _ => msgSender
  | .batchAddIntegration msgSender _ _ _ => msgSender
  | .batchEditIntegration msgSender _ _ _ => msgSender
  | .removeIntegration msgSender _ _ => msgSender
  | .transferOwnership msgSender _ => msgSender
  | .renounceOwnership msgSender => msgSender

/-- One of the calls named the adapter for the key. It came from the owner at that time, and the
controller had the module then. -/
def Approved (keccak256 : String → ℕ) (calls : List (Controller × Action))
    (start : IntegrationRegistry) (key : Address × ℕ) (adapter : Address) : Prop :=
  ∃ pre call post r, calls = pre ++ call :: post ∧ runAll (step keccak256) pre start = .ok r ∧
    call.2.sender = r.owner ∧ (key, adapter) ∈ call.2.writes keccak256 ∧
    call.1.isModule key.1 = true

variable {call : Controller × Action} {calls : List (Controller × Action)}
  {start : IntegrationRegistry} {key : Address × ℕ}

/-- An adapter after entries were written was there before, or is that of an allowed entry. -/
theorem find_of_overwrite {l : List ((Address × ℕ) × Address)}
    (hallowed : ∀ entry ∈ l, Allowed c entry) (hfind : r'.find = overwrite r.find l)
    (key : Address × ℕ) :
    r'.find key = r.find key ∨ (key, r'.find key) ∈ l ∧ c.isModule key.1 = true := by
  by_cases hkey : key ∈ l.map Prod.fst
  · obtain ⟨pre, written, post, rfl, hpost⟩ := exists_last hkey
    have hmem : (key, written) ∈ pre ++ (key, written) :: post := by simp
    rw [hfind, overwrite_of_last hpost]
    exact Or.inr ⟨hmem, (hallowed _ hmem).1⟩
  · rw [hfind, overwrite_of_notMem hkey]
    exact Or.inl rfl

/-- What a call leaves in the registry was there before, or is named by the call for a module. -/
theorem find_of_step (h : step keccak256 call r = .ok r') (hne : r'.find key ≠ zeroAddress) :
    r'.find key = r.find key ∨
      (key, r'.find key) ∈ call.2.writes keccak256 ∧ call.1.isModule key.1 = true := by
  have hsingle : ∀ (module : Address) (name : String) (adapter : Address),
      Allowed call.1 ((module, keccak256 name), adapter) →
      r.write module (keccak256 name) adapter = r' →
      r'.find key = r.find key ∨
        (key, r'.find key) ∈ [((module, keccak256 name), adapter)] ∧
          call.1.isModule key.1 = true := by
    rintro module name adapter hallowed rfl
    apply find_of_overwrite
    · intro entry hentry
      rwa [List.mem_singleton.mp hentry]
    · rw [find_write, overwrite_cons, overwrite_nil]
  obtain ⟨c, action⟩ := call
  cases action with
  | addIntegration msgSender module name adapter =>
    simp only [step, addIntegration, writeIntegration_eq_ok] at h
    obtain ⟨-, hallowed, -, hwrite⟩ := h
    exact hsingle module name adapter hallowed hwrite
  | editIntegration msgSender module name adapter =>
    simp only [step, editIntegration, writeIntegration_eq_ok] at h
    obtain ⟨-, hallowed, -, hwrite⟩ := h
    exact hsingle module name adapter hallowed hwrite
  | batchAddIntegration msgSender modules names adapters =>
    obtain ⟨-, -, -, -, hentries, -, -, hfind⟩ := batchAddIntegration_eq_ok.mp h
    exact find_of_overwrite (fun entry hentry => (hentries entry hentry).1) hfind key
  | batchEditIntegration msgSender modules names adapters =>
    obtain ⟨-, -, -, -, hentries, -, hfind⟩ := batchEditIntegration_eq_ok.mp h
    exact find_of_overwrite (fun entry hentry => (hentries entry hentry).1) hfind key
  | removeIntegration msgSender module name =>
    simp only [step, removeIntegration, bind_eq_ok, pure_eq_ok] at h
    obtain ⟨-, -, -, -, rfl⟩ := h
    left
    rw [find_write] at hne ⊢
    rcases eq_or_ne key (module, keccak256 name) with rfl | hother
    · rw [Function.update_self] at hne
      exact absurd rfl hne
    · rw [Function.update_of_ne hother]
  | transferOwnership msgSender newOwner =>
    simp only [step, transferOwnership, bind_eq_ok, pure_eq_ok] at h
    obtain ⟨-, -, -, -, rfl⟩ := h
    exact Or.inl rfl
  | renounceOwnership msgSender =>
    simp only [step, renounceOwnership, bind_eq_ok, pure_eq_ok] at h
    obtain ⟨-, -, rfl⟩ := h
    exact Or.inl rfl

/-- Only the owner calls. -/
theorem sender_of_step (h : step keccak256 call r = .ok r') : call.2.sender = r.owner := by
  obtain ⟨c, action⟩ := call
  cases action with
  | addIntegration msgSender module name adapter =>
    simp only [step, addIntegration, writeIntegration_eq_ok] at h
    exact h.1
  | editIntegration msgSender module name adapter =>
    simp only [step, editIntegration, writeIntegration_eq_ok] at h
    exact h.1
  | batchAddIntegration msgSender modules names adapters =>
    exact (batchAddIntegration_eq_ok.mp h).1
  | batchEditIntegration msgSender modules names adapters =>
    exact (batchEditIntegration_eq_ok.mp h).1
  | removeIntegration msgSender module name =>
    simp only [step, removeIntegration, bind_eq_ok, require_eq_ok] at h
    obtain ⟨-, howner, -⟩ := h
    exact howner
  | transferOwnership msgSender newOwner =>
    simp only [step, transferOwnership, bind_eq_ok, require_eq_ok] at h
    obtain ⟨-, howner, -⟩ := h
    exact howner
  | renounceOwnership msgSender =>
    simp only [step, renounceOwnership, bind_eq_ok, require_eq_ok] at h
    obtain ⟨-, howner, -⟩ := h
    exact howner

/-- What a run leaves in the registry was there at the start, or was approved. -/
theorem find_of_run (hrun : runAll (step keccak256) calls start = .ok r)
    (hne : r.find key ≠ zeroAddress) :
    r.find key = start.find key ∨ Approved keccak256 calls start key (r.find key) := by
  have hrest := foldlM_rest
    (fun rest (r : IntegrationRegistry) => ∃ done, calls = done ++ rest ∧
      runAll (step keccak256) done start = .ok r ∧ ∀ key, r.find key ≠ zeroAddress →
        r.find key = start.find key ∨ Approved keccak256 calls start key (r.find key))
    ?_ ⟨[], rfl, rfl, fun _ _ => Or.inl rfl⟩ hrun
  · obtain ⟨-, -, -, hfind⟩ := hrest
    exact hfind key hne
  · rintro call rest r r' ⟨done, hcalls, hdone, hbefore⟩ hstep
    refine ⟨done ++ [call], by rw [hcalls, List.append_assoc, List.singleton_append], ?_,
      fun key hne => ?_⟩
    · unfold runAll at hdone ⊢
      rw [List.foldlM_append, bind_eq_ok]
      exact ⟨r, hdone, foldlM_cons_eq_ok.mpr ⟨r', hstep, rfl⟩⟩
    · rcases find_of_step hstep hne with hsame | ⟨hwritten, hmodule⟩
      · rw [hsame] at hne ⊢
        exact hbefore key hne
      · exact Or.inr ⟨done, call, rest, r, hcalls, hdone, sender_of_step hstep, hwritten, hmodule⟩

/-- **Modules find only adapters that were approved**: after any run of calls since the registry was
deployed, with the controller changing in between, an adapter that a module finds was named for it
in a call of the one who owned the registry then, while it was a module of the controller. -/
theorem approved_of_run {env : Env} {w : World} {self owner : Address}
    (hrun : runAll (step env.keccak256) calls { owner := owner } = .ok r)
    (hw : w.integrations = r.integrations)
    (h : ModuleBase.getAndValidateAdapter self env w name = .ok adapter) :
    Approved env.keccak256 calls { owner := owner } (self, env.keccak256 name) adapter := by
  obtain ⟨rfl, hne⟩ := (getAndValidateAdapter_eq_ok hw).mp h
  exact (find_of_run hrun hne).resolve_left hne

/-- Names are hashed to their lengths. -/
def exampleEnv : Env where
  keccak256 name := name.length

/-- The owner `1` adds two adapters of the module `7`, and gives the registry to `2`, who edits one
of them. -/
def exampleCalls : List (Controller × Action) :=
  [({ isModule := fun a => a = 7 }, .batchAddIntegration 1 [7, 7] ["A", "AB"] [21, 22]),
    ({}, .transferOwnership 1 2),
    ({ isModule := fun a => a = 7 }, .editIntegration 2 7 "AB" 23)]

/-- The module finds the adapter of the last call. -/
theorem approved_of_run_example :
    ∃ r, runAll (step exampleEnv.keccak256) exampleCalls { owner := 1 } = .ok r ∧
      ModuleBase.getAndValidateAdapter 7 exampleEnv { integrations := r.integrations } "AB" =
        .ok 23 ∧
      Approved exampleEnv.keccak256 exampleCalls { owner := 1 } (7, exampleEnv.keccak256 "AB")
        23 := by
  obtain ⟨r, hrun, hfound⟩ := exists_of_yields
    (x := runAll (step exampleEnv.keccak256) exampleCalls { owner := 1 })
    (p := fun r => r.find (7, exampleEnv.keccak256 "AB") = 23) (by decide +kernel)
  have hadapter : ModuleBase.getAndValidateAdapter 7 exampleEnv
      { integrations := r.integrations } "AB" = .ok 23 := by
    rw [getAndValidateAdapter_eq_ok (r := r) rfl]
    exact ⟨of_decide_eq_true hfound, by decide⟩
  exact ⟨r, hrun, hadapter, approved_of_run hrun rfl hadapter⟩

end IntegrationRegistry

end SetProtocol
