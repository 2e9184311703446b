import DevDriver.Model.UriServer

/-!
# The blocks of a URI session

The blocks that sessions open are accounted for as long as each of them that is registered is held
by a session.
-/

namespace DevDriver.Analysis

open Library Model UriServerCtx

/-- The blocks that were opened, those in `prior` before and the others in this step: they are
different ones, and each that is registered is held. -/
structure Owned (prior : List SharedServerBlock) (held : SharedServerBlock → Prop) (b : BlockCtx) :
    Prop where
  accounted : AllHeld b.manager.registeredServerBlocks (prior ++ b.opened) held
  old : ∀ x ∈ prior ++ b.opened, x.resource < b.manager.nextBlock
  nodup : (prior ++ b.opened).Nodup

section Owned

variable {prior : List SharedServerBlock} {held held' : SharedServerBlock → Prop} {b b' : BlockCtx}
  {block : SharedServerBlock}

theorem Owned.mono (h : Owned prior held b) (hheld : ∀ x, held x → held' x) :
    Owned prior held' b :=
  ⟨h.accounted.mono hheld, h.old, h.nodup⟩

theorem Owned.onBlock (h : Owned prior held b) (operation : BlockOperation) :
    Owned prior held (b.onBlock block operation) :=
  ⟨h.accounted, h.old, h.nodup⟩

theorem Owned.openServerBlock (h : Owned prior held b)
    (hopen : b.openServerBlock = (some block, b')) (hheld : ∀ x, held x → held' x)
    (hblock : held' block) : Owned prior held' b' := by
  unfold BlockCtx.openServerBlock at hopen
  split at hopen
  · obtain ⟨⟨⟩, rfl⟩ := Prod.mk.inj hopen
    have hfresh : ∀ x ∈ prior ++ b.opened, x.resource ≠ b.manager.nextBlock :=
      fun x hx => Nat.ne_of_lt (h.old x hx)
    refine ⟨?_, ?_, ?_⟩
    · rw [← List.append_assoc]
      exact h.accounted.register hheld hblock
    · intro x hx
      rw [← List.append_assoc] at hx
      rcases List.mem_append.mp hx with hx | hx
      · exact Nat.lt_succ_of_lt (h.old x hx)
      · obtain rfl := List.mem_singleton.mp hx
        exact Nat.lt_succ_self _
    · rw [← List.append_assoc]
      apply h.nodup.append (List.nodup_singleton _)
      intro x hx hlast
      obtain rfl := List.mem_singleton.mp hlast
      exact hfresh _ hx rfl
  · cases (Prod.mk.inj hopen).1
  · cases (Prod.mk.inj hopen).1

theorem Owned.openServerBlock_none (h : Owned prior held b)
    (hopen : b.openServerBlock = (none, b')) : Owned prior held b' := by
  unfold BlockCtx.openServerBlock at hopen
  split at hopen
  · cases (Prod.mk.inj hopen).1
  · obtain ⟨-, rfl⟩ := Prod.mk.inj hopen
    exact ⟨h.accounted, h.old, h.nodup⟩
  · obtain ⟨-, rfl⟩ := Prod.mk.inj hopen
    exact h

theorem Owned.closeServerBlock (h : Owned prior held b) (pBlock : Option SharedServerBlock)
    (hheld : ∀ x, held x → some x ≠ pBlock → held' x) :
    Owned prior held' (b.closeServerBlock pBlock) := by
  cases pBlock with
  | none => exact h.mono fun x hx => hheld x hx nofun
  | some block =>
    refine ⟨h.accounted.unregister block.id fun x hx hid => ?_, h.old, h.nodup⟩
    apply hheld x hx
    rintro ⟨⟩
    exact hid rfl

end Owned

def UriHolds (session : URISession) (x : SharedServerBlock) : Prop :=
  session.pResponseBlock = some x ∨ session.pPostDataBlock = some x

def UriOwned (prior : List SharedServerBlock) (others : SharedServerBlock → Prop)
    (c : UriServerCtx) : Prop :=
  Owned prior (fun x => others x ∨ UriHolds c.session x) c.blocks

structure SameBlocks (c c' : UriServerCtx) : Prop where
  blocks : c'.blocks = c.blocks
  response : c'.session.pResponseBlock = c.session.pResponseBlock
  post : c'.session.pPostDataBlock = c.session.pPostDataBlock

section Session

variable {prior : List SharedServerBlock} {others : SharedServerBlock → Prop}
  {c c' c'' : UriServerCtx}

theorem SameBlocks.trans (h : SameBlocks c c') (h' : SameBlocks c' c'') : SameBlocks c c'' :=
  ⟨h'.blocks.trans h.blocks, h'.response.trans h.response, h'.post.trans h.post⟩

theorem SameBlocks.owned (h : SameBlocks c c') (howned : UriOwned prior others c) :
    UriOwned prior others c' := by
  unfold UriOwned
  rw [h.blocks]
  apply howned.mono
  rintro x (hx | hx | hx)
  · exact .inl hx
  · exact .inr (.inl (h.response.trans hx))
  · exact .inr (.inr (h.post.trans hx))

theorem sameBlocks_createPayload (data : List UInt8) : SameBlocks c (c.createPayload data) :=
  ⟨rfl, rfl, rfl⟩

theorem sameBlocks_setPayload (payload : SizedPayloadContainer) :
    SameBlocks c (c.setPayload payload) :=
  ⟨rfl, rfl, rfl⟩

theorem sameBlocks_sendPayload : SameBlocks c c.sendPayload.2 := by
  unfold sendPayload
  split <;> exact ⟨rfl, rfl, rfl⟩

theorem sameBlocks_receivePayload : SameBlocks c c.receivePayload.2 := by
  unfold receivePayload
  split <;> exact ⟨rfl, rfl, rfl⟩

theorem sameBlocks_sendQueuedPayload : SameBlocks c c.sendQueuedPayload := by
  unfold sendQueuedPayload
  split
  · dsimp only
    split
    · exact sameBlocks_sendPayload.trans ⟨rfl, rfl, rfl⟩
    · exact sameBlocks_sendPayload
  · exact ⟨rfl, rfl, rfl⟩

theorem sameBlocks_sendResponse : SameBlocks c c.sendResponse := by
  unfold UriServerCtx.sendResponse
  dsimp only
  split
  · exact sameBlocks_sendPayload
  · exact sameBlocks_sendPayload.trans ⟨rfl, rfl, rfl⟩

theorem sameBlocks_takeMessage : SameBlocks c c.takeMessage.2 := by
  unfold takeMessage
  dsimp only
  split
  · exact sameBlocks_sendQueuedPayload
  · exact sameBlocks_sendQueuedPayload.trans sameBlocks_receivePayload

/-! ### Requests -/

theorem UriOwned.onBlock (h : UriOwned prior others c) (block : SharedServerBlock)
    (operation : BlockOperation) : UriOwned prior others (c.onBlock block operation) :=
  Owned.onBlock h operation

theorem UriOwned.closePendingPostRequest (h : UriOwned prior others c) :
    UriOwned prior others c.closePendingPostRequest := by
  apply Owned.closeServerBlock h
  rintro x (hx | hx | hx) hne
  · exact .inl hx
  · exact .inr (.inl hx)
  · exact absurd hx.symm hne

theorem checkRequest_blocks (h : UriOwned prior others c) :
    UriOwned prior others c.checkRequest.2 ∧
      c.checkRequest.2.session.pResponseBlock = c.session.pResponseBlock := by
  have haccept : ∀ c : UriServerCtx, UriOwned prior others c →
      UriOwned prior others c.acceptPostData.2 ∧
        c.acceptPostData.2.session.pResponseBlock = c.session.pResponseBlock := by
    intro c h
    unfold acceptPostData
    dsimp only
    split
    · split
      · split
        · split
          · exact ⟨h, rfl⟩
          · exact ⟨h, rfl⟩
        · exact ⟨h.closePendingPostRequest, rfl⟩
      · split
        · exact ⟨h, rfl⟩
        · exact ⟨h.closePendingPostRequest, rfl⟩
    · exact ⟨h, rfl⟩
  unfold checkRequest
  dsimp only
  split
  · exact ⟨(sameBlocks_setPayload _).owned h, rfl⟩
  · exact haccept _ ((sameBlocks_setPayload _).owned h)

theorem UriOwned.callService (h : UriOwned prior others c) (request : UriRequest)
    (block : SharedServerBlock) : UriOwned prior others (c.callService request block).2.2 := by
  unfold UriServerCtx.callService
  split
  · exact h
  · exact Owned.onBlock h _

theorem UriOwned.handleRequest (h : UriOwned prior others c) (request : UriRequest)
    (hnone : c.session.pResponseBlock = none) :
    UriOwned prior others (c.handleRequest request) := by
  unfold UriServerCtx.handleRequest
  split
  · rename_i hopen
    obtain ⟨hblock, rfl⟩ := Prod.mk.inj hopen
    apply (sameBlocks_createPayload _).owned
    refine (Owned.openServerBlock_none h (Prod.ext hblock rfl)).mono ?_
    rintro x (hx | hx | hx)
    · exact .inl hx
    · rw [hnone] at hx
      cases hx
    · exact .inr (.inr hx)
  · rename_i block c' hopen
    obtain ⟨hblock, rfl⟩ := Prod.mk.inj hopen
    have hopened : UriOwned prior others { c with
        session := { c.session with pResponseBlock := some block }
        blocks := c.blocks.openServerBlock.2 } := by
      apply Owned.openServerBlock h (Prod.ext hblock rfl)
      · rintro x (hx | hx | hx)
        · exact .inl hx
        · rw [hnone] at hx
          cases hx
        · exact .inr (.inr hx)
      · exact .inr (.inl rfl)
    have hserved := ((hopened.callService request block).closePendingPostRequest).onBlock
      block .close
    dsimp only [openServerBlock] at hserved ⊢
    split
    · exact (sameBlocks_createPayload _).owned hserved
    · exact (sameBlocks_createPayload _).owned hserved

def AcceptsRequest (c : UriServerCtx) : Prop :=
  c.session.payload.uriCommand = .uriRequest ∧ ∃ request, c.checkRequest.1 = .ok request

def AcceptsPostRequest (c : UriServerCtx) : Prop :=
  c.session.payload.uriCommand = .uriPostRequest ∧
    ∃ payload serviceName arguments block,
      c.session.payload.extractRequestParameters = some (payload, serviceName, arguments) ∧
      c.services.validatePostRequest serviceName arguments payload.uriPostDataSize = .success ∧
      c.blocks.openServerBlock.1 = some block

theorem UriOwned.processRequest (h : UriOwned prior others c)
    (hcommand : c.session.payload.uriCommand = .uriRequest)
    (hnone : AcceptsRequest c → c.session.pResponseBlock = none) :
    UriOwned prior others c.processRequest := by
  obtain ⟨hchecked, hresponse⟩ := checkRequest_blocks h
  unfold UriServerCtx.processRequest
  split
  · rename_i request c' hcheck
    rw [hcheck] at hchecked hresponse
    apply UriOwned.handleRequest hchecked
    exact hresponse.trans (hnone ⟨hcommand, request, congrArg Prod.fst hcheck⟩)
  · rename_i hcheck
    rw [hcheck] at hchecked
    exact (sameBlocks_createPayload _).owned hchecked

theorem UriOwned.processPostRequest (h : UriOwned prior others c)
    (hcommand : c.session.payload.uriCommand = .uriPostRequest)
    (hnone : AcceptsPostRequest c → c.session.pPostDataBlock = none) :
    UriOwned prior others c.processPostRequest := by
  unfold UriServerCtx.processPostRequest
  split
  · exact (sameBlocks_createPayload _).owned h
  · rename_i payload serviceName arguments hextract
    dsimp only
    split
    · rename_i hvalid
      split
      · rename_i hopen
        obtain ⟨hblock, rfl⟩ := Prod.mk.inj hopen
        apply (sameBlocks_createPayload _).owned
        exact Owned.openServerBlock_none h (Prod.ext hblock rfl)
      · rename_i block c' hopen
        obtain ⟨hblock, rfl⟩ := Prod.mk.inj hopen
        have hpending := hnone ⟨hcommand, payload, serviceName, arguments, block, hextract,
          hvalid, hblock⟩
        apply (sameBlocks_createPayload _).owned
        apply Owned.openServerBlock h (Prod.ext hblock rfl)
        · rintro x (hx | hx | hx)
          · exact .inl hx
          · exact .inr (.inl hx)
          · rw [hpending] at hx
            cases hx
        · exact .inr (.inr rfl)
    · exact (sameBlocks_createPayload _).owned ((sameBlocks_setPayload _).owned h)

def KeepsUriBlocks (c : UriServerCtx) : Prop :=
  c.takeMessage.1 = true →
    (AcceptsRequest c.takeMessage.2 → c.session.pResponseBlock = none) ∧
    (AcceptsPostRequest c.takeMessage.2 → c.session.pPostDataBlock = none)

theorem UriOwned.processPayload (h : UriOwned prior others c)
    (hrequest : AcceptsRequest c → c.session.pResponseBlock = none)
    (hpost : AcceptsPostRequest c → c.session.pPostDataBlock = none) :
    UriOwned prior others c.processPayload := by
  unfold UriServerCtx.processPayload
  split
  · exact h.processPostRequest ‹_› hpost
  · exact h.processRequest ‹_› hrequest
  · exact h

theorem UriOwned.update (h : UriOwned prior others c) (hkeeps : KeepsUriBlocks c) :
    UriOwned prior others c.update := by
  have htake : SameBlocks c c.takeMessage.2 := sameBlocks_takeMessage
  unfold UriServerCtx.update
  dsimp only
  split
  · rename_i htaken
    obtain ⟨hrequest, hpost⟩ := hkeeps htaken
    apply sameBlocks_sendResponse.owned
    apply (htake.owned h).processPayload
    · exact fun haccepts => htake.response.trans (hrequest haccepts)
    · exact fun haccepts => htake.post.trans (hpost haccepts)
  · exact htake.owned h

theorem UriOwned.destroy (h : UriOwned prior others c) : Owned prior others c.destroy.blocks := by
  have hresponse : Owned prior (fun x => others x ∨ c.session.pPostDataBlock = some x)
      (c.blocks.closeServerBlock c.session.pResponseBlock) := by
    apply Owned.closeServerBlock h
    rintro x (hx | hx | hx) hne
    · exact .inl hx
    · exact absurd hx.symm hne
    · exact .inr hx
  apply hresponse.closeServerBlock
  rintro x (hx | hx) hne
  · exact hx
  · exact absurd hx.symm hne

end Session

end DevDriver.Analysis
