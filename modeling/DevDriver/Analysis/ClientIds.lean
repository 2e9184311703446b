import DevDriver.Library.Congruential
import DevDriver.Model.ClientManager
import Mathlib.Data.Finset.Card
import Mathlib.Data.Fintype.Card

/-!
# Client ids of the client manager

Client ids are drawn until one is neither the broadcast id nor in use.
-/

namespace DevDriver.Analysis

open Library Model SeededClientManager Random

def nextRandom (rand : Random) : Random := rand.generate.2

theorem toUInt16_generate (rand : Random) :
    rand.generate.1.toUInt16.toNat = rand.generate.2.prevState.toNat / 2 ^ 17 % 2 ^ 16 := by
  unfold generate
  generalize (rand.prevState * kMultiplier + kIncrement) % kModulus = s
  have hmask (n : ℕ) : n &&& 65535 = n % 65536 := Nat.and_two_pow_sub_one_eq_mod n 16
  have hbits : ((((s >>> 32) &&& 0xffff).toUInt32 <<< 15) |||
      (((s >>> 16) &&& 0xffff).toUInt32 >>> 1)).toUInt16.toNat =
        (s.toNat >>> 32 % 65536 &&& 65535) <<< 15 % 65536 |||
          (s.toNat >>> 16 % 4294967296 &&& 65535) >>> 1 % 65536 := by
    simp
  have hhigh : (s.toNat >>> 32 % 65536 % 65536) <<< 15 % 65536 =
      (s.toNat / 2 ^ 32 % 2) <<< 15 := by
    rw [Nat.shiftLeft_eq, Nat.shiftLeft_eq, Nat.shiftRight_eq_div_pow]
    omega
  have hlow : (s.toNat >>> 16 % 4294967296 % 65536) >>> 1 % 65536 =
      s.toNat / 2 ^ 17 % 2 ^ 15 := by
    rw [Nat.shiftRight_eq_div_pow, Nat.shiftRight_eq_div_pow]
    omega
  have hlt : s.toNat / 2 ^ 17 % 2 ^ 15 < 2 ^ 15 := Nat.mod_lt _ (by decide)
  dsimp only
  rw [hbits, hmask, hmask, hhigh, hlow, ← Nat.shiftLeft_add_eq_or_of_lt hlt, Nat.shiftLeft_eq]
  omega

theorem prevState_generate (rand : Random) :
    rand.generate.2.prevState.toNat =
      congruential kMultiplier.toNat kIncrement.toNat rand.prevState.toNat %
        2 ^ 48 := by
  simp [generate, congruential, kMultiplier, kIncrement, kModulus]
  omega

theorem iterate_nextRandom (n : ℕ) (rand : Random) :
    (nextRandom^[n] rand).prevState.toNat ≡
      (congruential kMultiplier.toNat kIncrement.toNat)^[n] rand.prevState.toNat
        [MOD 2 ^ 48] := by
  induction n generalizing rand with
  | zero => rfl
  | succ n ih =>
    rw [Function.iterate_succ_apply, Function.iterate_succ_apply]
    apply (ih (nextRandom rand)).trans
    apply iterate_congruential_modEq
    rw [nextRandom, prevState_generate]
    exact Nat.mod_modEq _ _

theorem exists_draw (rand : Random) (v : ClientId) :
    ∃ n < 2 ^ 33, ((nextRandom^[n] rand).generate.1 + 1).toUInt16 = v := by
  -- the state whose middle bits are one less than `v`
  have hmultiplier : kMultiplier.toNat % 4 = 1 := by decide
  have hincrement : kIncrement.toNat % 2 = 1 := by decide
  obtain ⟨n, hn, hreached⟩ := exists_iterate_congruential hmultiplier hincrement 33
    (nextRandom rand).prevState.toNat ((v.toNat + 65535) % 65536 * 2 ^ 17)
  refine ⟨n, hn, ?_⟩
  have hafter : (nextRandom^[n] rand).generate.2 = nextRandom^[n] (nextRandom rand) := by
    rw [← Function.iterate_succ_apply, Function.iterate_succ_apply']
    rfl
  have hstate := ((iterate_nextRandom n (nextRandom rand)).of_dvd
    (pow_dvd_pow 2 (show 33 ≤ 48 by decide))).trans hreached
  have hdraw := toUInt16_generate (nextRandom^[n] rand)
  rw [hafter] at hdraw
  have hv := v.toNat_lt
  apply UInt16.toNat_inj.mp
  rw [UInt32.toUInt16_add, UInt16.toNat_add, hdraw]
  unfold Nat.ModEq at hstate
  have hone : (1 : UInt32).toUInt16.toNat = 1 := rfl
  rw [hone]
  omega

/-! ## The search -/

def clientIdOf (manager : ListenerClientManager) (v : ClientId) : ClientId :=
  v &&& ~~~manager.routerPrefixMask ||| manager.routerPrefix

structure IsFreeId (manager : ListenerClientManager) (clientId : ClientId) : Prop where
  clientPart : clientId &&& ~~~manager.routerPrefixMask ≠ kBroadcastClientId
  unused : clientId ∉ manager.clientInfo

section Search

variable {manager : ListenerClientManager} {rand : Random} {n : ℕ}

theorem searchClientId_succ :
    searchClientId manager (n + 1) rand =
      if clientIdOf manager (rand.generate.1 + 1).toUInt16 &&& ~~~manager.routerPrefixMask =
          kBroadcastClientId ∨
          clientIdOf manager (rand.generate.1 + 1).toUInt16 ∈ manager.clientInfo then
        searchClientId manager n (nextRandom rand)
      else some (clientIdOf manager (rand.generate.1 + 1).toUInt16, nextRandom rand) := by
  have hpart : ((rand.generate.1 + 1) &&& (~~~manager.routerPrefixMask).toUInt32).toUInt16 =
      (rand.generate.1 + 1).toUInt16 &&& ~~~manager.routerPrefixMask := by
    rw [UInt32.toUInt16_and, UInt16.toUInt16_toUInt32]
  rw [searchClientId]
  dsimp only
  rw [hpart]
  rfl

theorem isFreeId_of_search {clientId : ClientId} {rand' : Random}
    (h : searchClientId manager n rand = some (clientId, rand')) :
    IsFreeId manager clientId ∧ ∃ v, clientId = clientIdOf manager v := by
  induction n generalizing rand with
  | zero => cases h
  | succ n ih =>
    rw [searchClientId_succ] at h
    split at h
    · exact ih h
    · rename_i haccepted
      obtain ⟨hid, -⟩ := Prod.mk.inj (Option.some.inj h)
      rw [hid, not_or] at haccepted
      exact ⟨⟨haccepted.1, haccepted.2⟩, _, hid.symm⟩

theorem isSome_searchClientId {k : ℕ} (hk : k < n)
    (hfree : IsFreeId manager
      (clientIdOf manager ((nextRandom^[k] rand).generate.1 + 1).toUInt16)) :
    (searchClientId manager n rand).isSome := by
  induction n generalizing rand k with
  | zero => exact absurd hk (Nat.not_lt_zero k)
  | succ n ih =>
    rw [searchClientId_succ]
    split
    · rename_i hrefused
      cases k with
      | zero =>
        rw [Function.iterate_zero_apply] at hfree
        exact absurd hrefused (not_or.mpr ⟨hfree.clientPart, hfree.unused⟩)
      | succ k =>
        rw [Function.iterate_succ_apply] at hfree
        exact ih (Nat.lt_of_succ_lt_succ hk) hfree
    · rfl

end Search

/-- The masks of a listener, and the assertion of the constructor.
listenerClientManager.cpp:16-17, listenerCore.cpp:112-119 -/
structure HasListenerMask (manager : ListenerClientManager) : Prop where
  mask : manager.routerPrefixMask = 0 ∨ manager.routerPrefixMask = kRouterPrefixMask
  routerPrefix : manager.routerPrefix &&& manager.routerPrefixMask = manager.routerPrefix

section Masks

variable {manager : ListenerClientManager}

/-- A client id that is made of a draw has the prefix of the router, and the client part of the
draw. -/
theorem clientIdOf_parts (h : HasListenerMask manager) (v : ClientId) :
    clientIdOf manager v &&& manager.routerPrefixMask = manager.routerPrefix ∧
      clientIdOf manager v &&& ~~~manager.routerPrefixMask =
        v &&& ~~~manager.routerPrefixMask := by
  constructor
  all_goals
    apply UInt16.toBitVec_inj.mp
    ext i hi
    have hbit := congrArg (fun x : UInt16 => x.toBitVec.getLsbD i) h.routerPrefix
    simp only [UInt16.toBitVec_and, BitVec.getLsbD_and] at hbit
    simp only [clientIdOf, UInt16.toBitVec_and, UInt16.toBitVec_or, UInt16.toBitVec_not,
      BitVec.getElem_and, BitVec.getElem_or, BitVec.getElem_not]
    cases hm : manager.routerPrefixMask.toBitVec.getLsbD i <;> simp_all

theorem and_clientMask (h : HasListenerMask manager) {n : ℕ} (hn : n < 8192) :
    UInt16.ofNat n &&& ~~~manager.routerPrefixMask = UInt16.ofNat n := by
  rcases h.mask with hmask | hmask
  · rw [hmask]
    simp
  · rw [hmask]
    apply UInt16.toNat_inj.mp
    rw [UInt16.toNat_and, show (~~~kRouterPrefixMask).toNat = 2 ^ 13 - 1 by decide,
      Nat.and_two_pow_sub_one_eq_mod, UInt16.toNat_ofNat']
    omega

theorem exists_isFreeId (h : HasListenerMask manager)
    (hcount : manager.clientInfo.length < kMaxNumberOfClients) :
    ∃ v, IsFreeId manager (clientIdOf manager v) := by
  by_contra hnone
  -- otherwise the ids with the client parts from 1 to 8191 are all in use
  let small (i : Fin 8191) : ClientId := clientIdOf manager (UInt16.ofNat (i + 1))
  have hpart (i : Fin 8191) :
      small i &&& ~~~manager.routerPrefixMask = UInt16.ofNat (i + 1) := by
    rw [(clientIdOf_parts h _).2, and_clientMask h (by omega)]
  have hvalue (i : Fin 8191) : (UInt16.ofNat (i + 1)).toNat = i + 1 := by
    rw [UInt16.toNat_ofNat']
    omega
  have hused (i : Fin 8191) : small i ∈ manager.clientInfo := by
    by_contra hnot
    apply hnone
    refine ⟨_, ?_, hnot⟩
    rw [hpart]
    intro hzero
    have := (hvalue i).symm.trans (congrArg UInt16.toNat hzero)
    exact Nat.succ_ne_zero _ this
  have hinjective : Function.Injective small := by
    intro i j hij
    have hparts := (hpart i).symm.trans ((congrArg (· &&& _) hij).trans (hpart j))
    have hvalues := (hvalue i).symm.trans ((congrArg UInt16.toNat hparts).trans (hvalue j))
    exact Fin.ext (Nat.succ.inj hvalues)
  have hsubset : Finset.univ.image small ⊆ manager.clientInfo.toFinset := by
    intro clientId hmem
    obtain ⟨i, -, rfl⟩ := Finset.mem_image.mp hmem
    exact List.mem_toFinset.mpr (hused i)
  have hcard : 8191 ≤ manager.clientInfo.length := by
    calc 8191 = (Finset.univ.image small).card := by
          rw [Finset.card_image_of_injective _ hinjective, Finset.card_univ, Fintype.card_fin]
      _ ≤ manager.clientInfo.toFinset.card := Finset.card_le_card hsubset
      _ ≤ manager.clientInfo.length := manager.clientInfo.toFinset_card_le
  have hmax : kMaxNumberOfClients = 8190 := by decide
  omega

theorem search_ends (h : HasListenerMask manager)
    (hcount : manager.clientInfo.length < kMaxNumberOfClients) {rounds : ℕ}
    (hrounds : 2 ^ 33 ≤ rounds) (rand : Random) :
    (searchClientId manager rounds rand).isSome := by
  obtain ⟨v, hfree⟩ := exists_isFreeId h hcount
  obtain ⟨n, hn, hdraw⟩ := exists_draw rand v
  apply isSome_searchClientId (hn.trans_le hrounds)
  rw [hdraw]
  exact hfree

end Masks

/-! ## The runs of a client manager -/

inductive ClientManagerCall where
  | registerHost (hasMemory : Bool)
  | unregisterHost
  | registerClient (hasMemory : Bool)
  | unregisterClient (clientId : ClientId)
  deriving DecidableEq

/-- The set of clients gets the memory that the call may need. -/
def ClientManagerCall.HasMemory (call : ClientManagerCall) : Prop :=
  call ≠ .registerHost false ∧ call ≠ .registerClient false

instance : DecidablePred ClientManagerCall.HasMemory := fun _ => instDecidableAnd

/-- A client manager of a listener that has just been made, with any state of its generator. -/
structure IsNewClientManager (s : SeededClientManager) : Prop extends
    HasListenerMask s.toListenerClientManager where
  initialized : s.initialized = false
  hostClientId : s.hostClientId = kBroadcastClientId
  clientInfo : s.clientInfo = []

/-- The client manager, with the answers to its calls, whose loops have the given rounds. -/
def clientManagerMachine (rounds : ℕ) :
    Machine SeededClientManager ClientManagerCall (Result × Option ClientId) where
  init := IsNewClientManager
  step
    | s, .registerHost hasMemory => (s.registerHost rounds hasMemory).map Prod.swap
    | s, .unregisterHost => some (s.unregisterHost.2, s.unregisterHost.1, none)
    | s, .registerClient hasMemory => (s.registerClient rounds hasMemory).map Prod.swap
    | s, .unregisterClient clientId =>
      some ((s.unregisterClient clientId).2, (s.unregisterClient clientId).1, none)

structure ClientManagerConsistent (s : SeededClientManager) : Prop extends
    HasListenerMask s.toListenerClientManager where
  nodup : s.clientInfo.Nodup
  count : s.clientInfo.length ≤ kMaxNumberOfClients
  host : s.initialized = true → s.hostClientId ∈ s.clientInfo
  empty : s.initialized = false → s.clientInfo = []

/-- What a client id that is given out has, and what is left of the clients. -/
structure GivesOut (s t : SeededClientManager) (clientId : ClientId) : Prop where
  routerPrefix : clientId &&& s.routerPrefixMask = s.routerPrefix
  clientPart : clientId &&& ~~~s.routerPrefixMask ≠ kBroadcastClientId
  unused : clientId ∉ s.clientInfo
  clientInfo : t.clientInfo = clientId :: s.clientInfo

/-- What a call answers.  A registration that succeeds gives a client id out, a client is refused
only if there is no host or no room, and the id of the host stays with the host. -/
structure AnswersManagerCall (s : SeededClientManager) (call : ClientManagerCall)
    (t : SeededClientManager) (result : Result × Option ClientId) : Prop where
  registers : call = .registerHost true ∨ call = .registerClient true → result.1 = .success →
    ∃ clientId, result.2 = some clientId ∧ GivesOut s t clientId
  refuses : call = .registerClient true → result.1 ≠ .success →
    s.initialized = false ∨ s.clientInfo.length = kMaxNumberOfClients
  keepsHost : s.initialized = true → call ≠ .unregisterHost → t.initialized = true ∧
    t.hostClientId = s.hostClientId ∧ s.hostClientId ∈ t.clientInfo ∧
      result.2 ≠ some s.hostClientId
  refusesHost : s.initialized = true → call = .unregisterClient s.hostClientId →
    result.1 = .error ∧ t = s

variable {rounds : ℕ} {s : SeededClientManager} {clientId : ClientId}

theorem generateClientId_cases {t : SeededClientManager}
    (hs : HasListenerMask s.toListenerClientManager)
    (h : s.generateClientId rounds = some (clientId, t)) :
    (∃ rand, t = { s with rand := rand }) ∧
      (clientId = kBroadcastClientId ∧ kMaxNumberOfClients ≤ s.clientInfo.length ∨
        s.clientInfo.length < kMaxNumberOfClients ∧
          clientId &&& s.routerPrefixMask = s.routerPrefix ∧
          IsFreeId s.toListenerClientManager clientId) := by
  unfold generateClientId at h
  split at h
  · rename_i hcount
    obtain ⟨⟨id, rand⟩, hsearch, h⟩ := Option.map_eq_some_iff.mp h
    cases h
    obtain ⟨hfree, v, rfl⟩ := isFreeId_of_search hsearch
    exact ⟨⟨rand, rfl⟩, .inr ⟨hcount, (clientIdOf_parts hs v).1, hfree⟩⟩
  · rename_i hcount
    cases h
    exact ⟨⟨s.rand, rfl⟩, .inl ⟨rfl, not_lt.mp hcount⟩⟩

theorem IsFreeId.ne_broadcast {manager : ListenerClientManager}
    (h : IsFreeId manager clientId) : clientId ≠ kBroadcastClientId := by
  intro heq
  apply h.clientPart
  rw [heq]
  exact UInt16.zero_and

theorem givesOut_of_isFreeId {t : SeededClientManager}
    (hmasked : clientId &&& s.routerPrefixMask = s.routerPrefix)
    (hfree : IsFreeId s.toListenerClientManager clientId)
    (ht : t.clientInfo = s.clientInfo.insert clientId) : GivesOut s t clientId where
  routerPrefix := hmasked
  clientPart := hfree.clientPart
  unused := hfree.unused
  clientInfo := by rw [ht, List.insert_of_not_mem hfree.unused]

theorem ClientManagerConsistent.enter {t : SeededClientManager} (hs : ClientManagerConsistent s)
    (hgives : GivesOut s t clientId) (hcount : s.clientInfo.length < kMaxNumberOfClients)
    (hlistener : HasListenerMask t.toListenerClientManager) (hinitialized : t.initialized = true)
    (hhost : t.hostClientId = clientId ∨ t.hostClientId ∈ s.clientInfo) :
    ClientManagerConsistent t where
  toHasListenerMask := hlistener
  nodup := by
    rw [hgives.clientInfo]
    exact hs.nodup.cons hgives.unused
  count := by
    rw [hgives.clientInfo]
    exact hcount
  host _ := by
    rw [hgives.clientInfo]
    exact List.mem_cons.mpr hhost
  empty hnot := by
    rw [hinitialized] at hnot
    cases hnot

variable {result : Result × Option ClientId}

section

variable (hs : ClientManagerConsistent s)

include hs

theorem registerHost_spec {t : SeededClientManager}
    (h : s.registerHost rounds true = some (result, t)) :
    ClientManagerConsistent t ∧ AnswersManagerCall s (.registerHost true) t result := by
  unfold registerHost at h
  split at h
  · rename_i hnot
    have hempty := hs.empty (Bool.eq_false_iff.mpr hnot)
    obtain ⟨⟨clientId, manager⟩, hgenerated, h⟩ := Option.map_eq_some_iff.mp h
    cases h
    obtain ⟨⟨rand, rfl⟩, hcase⟩ := generateClientId_cases hs.toHasListenerMask hgenerated
    rcases hcase with ⟨-, hfull⟩ | ⟨hcount, hmasked, hfree⟩
    · rw [hempty] at hfull
      exact absurd hfull (by decide)
    · have hgives := givesOut_of_isFreeId hmasked hfree (t := { s with
        rand := rand
        hostClientId := clientId
        initialized := true
        clientInfo := s.clientInfo.insert clientId }) rfl
      constructor
      · exact hs.enter hgives hcount ⟨hs.mask, hs.routerPrefix⟩ rfl (.inl rfl)
      · constructor
        · exact fun _ _ => ⟨clientId, rfl, hgives⟩
        · exact fun hcall => nomatch hcall
        · exact fun hinitialized => absurd hinitialized hnot
        · exact fun _ hcall => nomatch hcall
  · rename_i hinitialized
    rw [not_not] at hinitialized
    cases h
    refine ⟨hs, ?_⟩
    constructor
    · exact fun _ hsuccess => nomatch hsuccess
    · exact fun hcall => nomatch hcall
    · exact fun _ _ => ⟨hinitialized, rfl, hs.host hinitialized, nofun⟩
    · exact fun _ hcall => nomatch hcall

theorem registerClient_spec {t : SeededClientManager}
    (h : s.registerClient rounds true = some (result, t)) :
    ClientManagerConsistent t ∧ AnswersManagerCall s (.registerClient true) t result := by
  unfold SeededClientManager.registerClient at h
  split at h
  · rename_i hinitialized
    obtain ⟨⟨clientId, manager⟩, hgenerated, h⟩ := Option.map_eq_some_iff.mp h
    obtain ⟨⟨rand, rfl⟩, hcase⟩ := generateClientId_cases hs.toHasListenerMask hgenerated
    have hhost := hs.host hinitialized
    dsimp only at h
    split at h
    · rename_i hne
      cases h
      obtain ⟨hcount, hmasked, hfree⟩ := hcase.resolve_left fun hfull => hne hfull.1
      have hgives := givesOut_of_isFreeId hmasked hfree (t := { s with
        rand := rand
        clientInfo := s.clientInfo.insert clientId }) rfl
      constructor
      · exact hs.enter hgives hcount ⟨hs.mask, hs.routerPrefix⟩ hinitialized (.inr hhost)
      · constructor
        · exact fun _ _ => ⟨clientId, rfl, hgives⟩
        · exact fun _ hfails => absurd rfl hfails
        · intro _ _
          refine ⟨hinitialized, rfl, List.mem_insert_of_mem hhost, fun heq => ?_⟩
          rw [Option.some.inj heq] at hfree
          exact hfree.unused hhost
        · exact fun _ hcall => nomatch hcall
    · rename_i heq
      cases h
      have hfull := hcase.resolve_right fun hfree => heq hfree.2.2.ne_broadcast
      constructor
      · exact ⟨⟨hs.mask, hs.routerPrefix⟩, hs.nodup, hs.count, hs.host, hs.empty⟩
      · constructor
        · exact fun _ hsuccess => nomatch hsuccess
        · exact fun _ _ => .inr (le_antisymm hs.count hfull.2)
        · exact fun _ _ => ⟨hinitialized, rfl, hhost, nofun⟩
        · exact fun _ hcall => nomatch hcall
  · rename_i hnot
    cases h
    refine ⟨hs, ?_⟩
    constructor
    · exact fun _ hsuccess => nomatch hsuccess
    · exact fun _ _ => .inl (Bool.eq_false_iff.mpr hnot)
    · exact fun hinitialized => absurd hinitialized hnot
    · exact fun _ hcall => nomatch hcall

theorem unregisterHost_spec :
    ClientManagerConsistent s.unregisterHost.2 ∧
      AnswersManagerCall s .unregisterHost s.unregisterHost.2 (s.unregisterHost.1, none) := by
  constructor
  · unfold unregisterHost
    split
    · exact ⟨⟨hs.mask, hs.routerPrefix⟩, List.nodup_nil, Nat.zero_le _, nofun, fun _ => rfl⟩
    · exact hs
  · constructor
    · exact fun hcall => nomatch hcall
    · exact fun hcall => nomatch hcall
    · exact fun _ hne => absurd rfl hne
    · exact fun _ hcall => nomatch hcall

theorem unregisterClient_spec :
    ClientManagerConsistent (s.unregisterClient clientId).2 ∧
      AnswersManagerCall s (.unregisterClient clientId) (s.unregisterClient clientId).2
        ((s.unregisterClient clientId).1, none) := by
  unfold unregisterClient
  split
  · rename_i hguard
    obtain ⟨hinitialized, hne⟩ := hguard
    have hhost := hs.host hinitialized
    have hkept : s.hostClientId ∈ s.clientInfo.erase clientId :=
      (List.mem_erase_of_ne fun heq => hne heq.symm).mpr hhost
    split
    · constructor
      · refine ⟨⟨hs.mask, hs.routerPrefix⟩, hs.nodup.erase _, ?_, fun _ => hkept, ?_⟩
        · exact (List.length_erase_le).trans hs.count
        · intro hnot
          rw [show s.initialized = false from hnot] at hinitialized
          cases hinitialized
      · constructor
        · exact fun hcall => nomatch hcall
        · exact fun hcall => nomatch hcall
        · exact fun _ _ => ⟨hinitialized, rfl, hkept, nofun⟩
        · exact fun _ hcall => absurd (ClientManagerCall.unregisterClient.inj hcall) hne
    · refine ⟨hs, ?_⟩
      constructor
      · exact fun hcall => nomatch hcall
      · exact fun hcall => nomatch hcall
      · exact fun _ _ => ⟨hinitialized, rfl, hhost, nofun⟩
      · exact fun _ hcall => absurd (ClientManagerCall.unregisterClient.inj hcall) hne
  · refine ⟨hs, ?_⟩
    constructor
    · exact fun hcall => nomatch hcall
    · exact fun hcall => nomatch hcall
    · exact fun hinitialized _ => ⟨hinitialized, rfl, hs.host hinitialized, nofun⟩
    · exact fun _ _ => ⟨rfl, rfl⟩

theorem clientManager_step {t : SeededClientManager} {call : ClientManagerCall}
    (hmemory : call.HasMemory)
    (hstep : (clientManagerMachine rounds).step s call = some (t, result)) :
    ClientManagerConsistent t ∧ AnswersManagerCall s call t result := by
  cases call with
  | registerHost hasMemory =>
    obtain ⟨r, hregister, hswap⟩ := Option.map_eq_some_iff.mp hstep
    cases hswap
    cases hasMemory with
    | true => exact registerHost_spec hs hregister
    | false => exact absurd rfl hmemory.1
  | unregisterHost =>
    cases hstep
    exact unregisterHost_spec hs
  | registerClient hasMemory =>
    obtain ⟨r, hregister, hswap⟩ := Option.map_eq_some_iff.mp hstep
    cases hswap
    cases hasMemory with
    | true => exact registerClient_spec hs hregister
    | false => exact absurd rfl hmemory.2
  | unregisterClient clientId =>
    cases hstep
    exact unregisterClient_spec hs

end

theorem clientManagerConsistent_init (hnew : IsNewClientManager s) : ClientManagerConsistent s := by
  refine ⟨hnew.toHasListenerMask, ?_, ?_, fun hinitialized => ?_, fun _ => hnew.clientInfo⟩
  · rw [hnew.clientInfo]
    exact List.nodup_nil
  · rw [hnew.clientInfo]
    exact Nat.zero_le _
  · rw [hnew.initialized] at hinitialized
    cases hinitialized

/-- The prefix and the mask of a listener stay, whatever memory there is. -/
theorem hasListenerMask_step {t : SeededClientManager} {call : ClientManagerCall}
    (hs : HasListenerMask s.toListenerClientManager)
    (hstep : (clientManagerMachine rounds).step s call = some (t, result)) :
    HasListenerMask t.toListenerClientManager := by
  cases call with
  | registerHost hasMemory =>
    obtain ⟨r, hregister, hswap⟩ := Option.map_eq_some_iff.mp hstep
    cases hswap
    unfold registerHost at hregister
    split at hregister
    · obtain ⟨⟨clientId, manager⟩, hgenerated, h⟩ := Option.map_eq_some_iff.mp hregister
      cases h
      obtain ⟨⟨rand, rfl⟩, -⟩ := generateClientId_cases hs hgenerated
      exact ⟨hs.mask, hs.routerPrefix⟩
    · cases hregister
      exact hs
  | unregisterHost =>
    cases hstep
    unfold unregisterHost
    split
    · exact ⟨hs.mask, hs.routerPrefix⟩
    · exact hs
  | registerClient hasMemory =>
    obtain ⟨r, hregister, hswap⟩ := Option.map_eq_some_iff.mp hstep
    cases hswap
    unfold SeededClientManager.registerClient at hregister
    split at hregister
    · obtain ⟨⟨clientId, manager⟩, hgenerated, h⟩ := Option.map_eq_some_iff.mp hregister
      obtain ⟨⟨rand, rfl⟩, -⟩ := generateClientId_cases hs hgenerated
      dsimp only at h
      split at h <;> cases h <;> exact ⟨hs.mask, hs.routerPrefix⟩
    · cases hregister
      exact hs
  | unregisterClient clientId =>
    cases hstep
    unfold unregisterClient
    split
    · split
      · exact ⟨hs.mask, hs.routerPrefix⟩
      · exact hs
    · exact hs

theorem isSome_step (hrounds : 2 ^ 33 ≤ rounds)
    (hs : HasListenerMask s.toListenerClientManager) (call : ClientManagerCall) :
    ((clientManagerMachine rounds).step s call).isSome := by
  have hgenerate : (s.generateClientId rounds).isSome := by
    unfold generateClientId
    split
    · rename_i hcount
      rw [Option.isSome_map]
      exact search_ends hs hcount hrounds s.rand
    · rfl
  cases call with
  | registerHost hasMemory =>
    change ((s.registerHost rounds hasMemory).map Prod.swap).isSome
    rw [Option.isSome_map, registerHost]
    split
    · rwa [Option.isSome_map]
    · rfl
  | unregisterHost => rfl
  | registerClient hasMemory =>
    change ((s.registerClient rounds hasMemory).map Prod.swap).isSome
    rw [Option.isSome_map, SeededClientManager.registerClient]
    split
    · rwa [Option.isSome_map]
    · rfl
  | unregisterClient clientId => rfl

/-- After any calls, with any state of the generator and whatever memory there is, the search for a
client id ends within `2 ^ 33` rounds and every call returns; and as long as the set of clients
gets its memory, the calls answer as they should. -/
theorem client_ids_given_out {rounds : ℕ} (hrounds : 2 ^ 33 ≤ rounds) {s₀ s : SeededClientManager}
    {tr : List (SeededClientManager × ClientManagerCall × (Result × Option ClientId))}
    (hnew : IsNewClientManager s₀) (h : (clientManagerMachine rounds).Trace s₀ tr s) :
    (s.clientInfo.length < kMaxNumberOfClients → ∀ rand,
      (searchClientId s.toListenerClientManager rounds rand).isSome) ∧
    (∀ call, ((clientManagerMachine rounds).step s call).isSome) ∧
    ((∀ x ∈ tr, x.2.1.HasMemory) → s.clientInfo.Nodup ∧ ∀ call, call.HasMemory →
      ∀ t result, (clientManagerMachine rounds).step s call = some (t, result) →
        AnswersManagerCall s call t result) := by
  have hmask : HasListenerMask s.toListenerClientManager := by
    refine h.invariant (P := fun s => HasListenerMask s.toListenerClientManager)
      (C := fun _ _ => True) hnew.toHasListenerMask (fun _ _ => trivial) ?_
    exact fun _ _ _ _ hs _ hstep => hasListenerMask_step hs hstep
  refine ⟨fun hcount rand => search_ends hmask hcount hrounds rand, isSome_step hrounds hmask, ?_⟩
  intro hmemory
  have hs : ClientManagerConsistent s := by
    refine h.invariant (C := fun _ call => call.HasMemory) (clientManagerConsistent_init hnew)
      hmemory ?_
    exact fun _ _ _ _ hs hcall hstep => (clientManager_step hs hcall hstep).1
  exact ⟨hs.nodup, fun call hcall t result hstep => (clientManager_step hs hcall hstep).2⟩

def newClientManager : SeededClientManager where
  routerPrefix := 0
  routerPrefixMask := kRouterPrefixMask
  hostClientId := kBroadcastClientId
  clientInfo := []
  initialized := false
  rand := ⟨0⟩

theorem isNewClientManager_newClientManager : IsNewClientManager newClientManager :=
  ⟨⟨.inr rfl, by decide⟩, rfl, rfl, rfl⟩

theorem client_ids_given_out_two : ∃ s t result,
    (clientManagerMachine (2 ^ 33)).run newClientManager [.registerHost true] = some s ∧
    (clientManagerMachine (2 ^ 33)).step s (.registerClient true) = some (t, result) ∧
    result.1 = .success ∧ AnswersManagerCall s (.registerClient true) t result := by
  obtain ⟨s, hrun, hs⟩ :=
    (clientManagerMachine (2 ^ 33)).exists_of_run newClientManager [.registerHost true]
      (fun s => ((clientManagerMachine (2 ^ 33)).step s (.registerClient true)).any fun r => decide
        (r.2.1 = .success)) (by decide +kernel)
  obtain ⟨⟨t, result⟩, hstep, hsuccess⟩ := (Option.any_eq_true _ _).mp hs
  have hmemory : ∀ x ∈ (clientManagerMachine (2 ^ 33)).transitions newClientManager
      [.registerHost true], x.2.1.HasMemory := by
    decide +kernel
  have hgiven := client_ids_given_out le_rfl isNewClientManager_newClientManager (.of_run hrun)
  exact ⟨s, t, result, hrun, hstep, of_decide_eq_true hsuccess,
    (hgiven.2.2 hmemory).2 (.registerClient true) (by decide) t result hstep⟩

/-- Without a host a client is refused, although no client id is in use. -/
theorem registerClient_refused_without_host : ¬ ∀ (rounds : ℕ) (s t : SeededClientManager)
    (result : Result × Option ClientId), (clientManagerMachine rounds).Reachable s →
    (clientManagerMachine rounds).step s (.registerClient true) = some (t, result) →
    result.1 ≠ .success → s.clientInfo.length = kMaxNumberOfClients := by
  intro hall
  have hfull := hall (2 ^ 33) newClientManager newClientManager (.error, none)
    (.init isNewClientManager_newClientManager) rfl nofun
  exact absurd hfull (by decide)

end DevDriver.Analysis
