import MediaServer.StunRoundTrip
import MediaServer.WebrtcSession

/-! Who may say where media goes. Every step of a session either leaves the remote endpoint
alone and talks to it, or sets it to the source of an authenticated nomination, or closes
the session. -/
namespace MediaServer.Webrtc
open Bytes Stun Controller

variable {δ ς ρ : Type}

def Nominates (hashes : Hashes) (p : Peer δ ς) (packet : Bytes) : Prop :=
  ∃ request, parseStunBindingRequest hashes packet p.username p.icePwd = some request ∧
    request.priority = true ∧ request.iceControlling = true ∧ request.useCandidate = true ∧
    request.iceControlled = false ∧ request.unknownRequiredAttributes = []

/- DTLS, SRTP and media effects are bound to the endpoint, answers to STUN are not. -/
def Effect.bound (remote : Option Endpoint) : Effect → Prop
  | .toDtls endpoint _ => remote = some endpoint
  | .toSrtp endpoint _ => remote = some endpoint
  | .sent .stun _ _ => True
  | .sent _ endpoint _ => remote = some endpoint
  | .refreshIceActivity => True
  | .postShutdown => True

def Effect.inbound : Effect → Option (Bytes × Endpoint)
  | .toDtls endpoint packet => some (packet,endpoint)
  | .toSrtp endpoint packet => some (packet,endpoint)
  | _ => none

def Effect.media : Effect → Bool
  | .sent .stun _ _ => false
  | .sent _ _ _ => true
  | _ => false

structure Kept (before after : Peer δ ς) : Prop where
  remote : after.remoteEndpoint = before.remoteEndpoint
  ufrag : after.iceUfrag = before.iceUfrag
  pwd : after.icePwd = before.icePwd
  remoteUfrag : after.remoteIceUfrag = before.remoteIceUfrag
  port : after.localPort = before.localPort

inductive Move (hashes : Hashes) (source : Option (Bytes × Endpoint)) (before after : Peer δ ς)
    (effects : List Effect) : Prop where
  | kept (same : Kept before after)
      (bound : ∀ f ∈ effects, f.bound before.remoteEndpoint)
      (inbound : ∀ f ∈ effects, f.inbound.isSome → f.inbound = source)
  | nominated (packet : Bytes) (endpoint : Endpoint) (from_ : source = some (packet,endpoint))
      (opened : before.localPort ≠ 0) (nominates : Nominates hashes before packet)
      (set : after = {before with remoteEndpoint := some endpoint})
      (quiet : ∀ f ∈ effects, f.inbound = none ∧ f.media = false)
  | closed (alone : source = none) (shut : after = before.close) (silent : effects = [])

theorem Kept.refl (p : Peer δ ς) : Kept p p := ⟨rfl,rfl,rfl,rfl,rfl⟩

variable {p before : Peer δ ς} {packet : Bytes} {endpoint : Endpoint} {hashes : Hashes}
  {effects : List Effect}

theorem sendUdpTo {kind : Kind} :
    ∀ f ∈ p.sendUdpTo kind packet endpoint, f = .sent kind endpoint packet := by
  unfold Peer.sendUdpTo
  split <;> simp

theorem sendUdpBound {kind : Kind} :
    ∀ f ∈ p.sendUdp kind packet, f.bound p.remoteEndpoint ∧ f.inbound = none := by
  intro f member
  unfold Peer.sendUdp at member
  split at member
  · simp at member
  · rename_i endpoint remote
    rw [sendUdpTo f member]
    cases kind <;> exact ⟨by simp [Effect.bound,remote],rfl⟩

theorem stunOnly :
    ∀ f ∈ p.sendUdpTo .stun packet endpoint, (∀ remote, f.bound remote) ∧ f.inbound = none ∧
      f.media = false := by
  intro f member
  rw [sendUdpTo f member]
  exact ⟨fun _ => trivial,rfl,rfl⟩

theorem keptStun {source : Option (Bytes × Endpoint)}
    (quiet : ∀ f ∈ effects, (∀ remote, f.bound remote) ∧ f.inbound = none ∧ f.media = false) :
    Move hashes source p p effects :=
  .kept (.refl p) (fun f member => (quiet f member).1 _) fun f member inbound => by
    simp [(quiet f member).2.1] at inbound

theorem refreshed :
    ∀ f ∈ Effect.refreshIceActivity :: p.sendUdpTo .stun packet endpoint,
      (∀ remote, f.bound remote) ∧ f.inbound = none ∧ f.media = false := by
  intro f member
  rcases List.mem_cons.mp member with same | sent
  · subst f; exact ⟨fun _ => trivial,rfl,rfl⟩
  · exact stunOnly f sent

theorem stunMoves (hashes : Hashes) (p : Peer δ ς) (packet : Bytes) (endpoint : Endpoint)
    (opened : p.localPort ≠ 0) :
    Move hashes (some (packet,endpoint)) p (p.handleStun hashes packet endpoint).1
      (p.handleStun hashes packet endpoint).2 := by
  unfold Peer.handleStun
  split
  · exact keptStun (by simp)
  · rename_i request parsed
    split
    · exact keptStun stunOnly
    · rename_i known
      split
      · exact keptStun (by simp)
      · rename_i priority
        split
        · exact keptStun stunOnly
        · rename_i controlled
          split
          · exact keptStun (by simp)
          · rename_i controlling
            simp only
            split
            · exact keptStun (by simp)
            · split
              · rename_i candidate
                refine .nominated packet endpoint rfl opened ⟨request,parsed,?_,?_,candidate,?_,?_⟩
                  rfl fun f member => (refreshed f member).2
                · simpa using priority
                · simpa using controlling
                · simpa using controlled
                · simpa using known
              · split
                · exact keptStun refreshed
                · exact keptStun stunOnly

def Outward (p : Peer δ ς) (effects : List Effect) : Prop :=
  ∀ f ∈ effects, f.bound p.remoteEndpoint ∧ f.inbound = none

theorem Outward.nil (p : Peer δ ς) : Outward p [] := by simp [Outward]

theorem Outward.append {first second : List Effect} (a : Outward p first) (b : Outward p second) :
    Outward p (first ++ second) := by
  intro f member
  rcases List.mem_append.mp member with left | right
  · exact a f left
  · exact b f right

theorem Outward.post (p : Peer δ ς) : Outward p [.postShutdown] := by
  intro f member
  rw [List.mem_singleton.mp member]
  exact ⟨trivial,rfl⟩

theorem outwardSends (p : Peer δ ς) (kind : Kind) (output : List Bytes) :
    Outward p (output.flatMap (p.sendUdp kind)) := by
  intro f member
  obtain ⟨datagram,_,sent⟩ := List.mem_flatMap.mp member
  exact sendUdpBound f sent

theorem dtlsMoves (engines : Engines δ ς ρ) (p : Peer δ ς) (packet : Bytes) :
    Kept p (p.handleDtls engines packet).1 ∧ Outward p (p.handleDtls engines packet).2 := by
  unfold Peer.handleDtls
  split
  · exact ⟨.refl p,.nil p⟩
  · have sends := outwardSends p .dtls
    simp only
    split
    · exact ⟨⟨rfl,rfl,rfl,rfl,rfl⟩,(sends _).append (.post p)⟩
    · split
      · split
        · exact ⟨⟨rfl,rfl,rfl,rfl,rfl⟩,(sends _).append (.post p)⟩
        · exact ⟨⟨rfl,rfl,rfl,rfl,rfl⟩,sends _⟩
      · exact ⟨⟨rfl,rfl,rfl,rfl,rfl⟩,sends _⟩

theorem timeoutMoves (engines : Engines δ ς ρ) (p : Peer δ ς) :
    Kept p (p.handleDtlsTimeout engines).1 ∧ Outward p (p.handleDtlsTimeout engines).2 := by
  unfold Peer.handleDtlsTimeout
  split
  · exact ⟨.refl p,.nil p⟩
  · split
    · exact ⟨.refl p,.nil p⟩
    · have sends := outwardSends p .dtls
      refine ⟨⟨rfl,rfl,rfl,rfl,rfl⟩,?_⟩
      simp only
      split
      · exact sends _
      · exact (sends _).append (.post p)

theorem rtpSends (engines : Engines δ ς ρ) (p : Peer δ ς) (srtp : ς) (packet : Bytes) :
    Outward p (WhepSession.sendRtp engines p srtp packet).2 := by
  unfold WhepSession.sendRtp
  obtain ⟨next,datagram⟩ := engines.protectRtp srtp packet
  cases datagram with
  | none => exact .nil p
  | some datagram => exact sendUdpBound

theorem rtcpSends (engines : Engines δ ς ρ) (p : Peer δ ς) (srtp : ς) (packet : Bytes) :
    Outward p (WhepSession.sendRtcp engines p srtp packet).2 := by
  unfold WhepSession.sendRtcp
  obtain ⟨next,datagram⟩ := engines.protectRtcp srtp packet
  cases datagram with
  | none => exact .nil p
  | some datagram => exact sendUdpBound

theorem packetsSend (engines : Engines δ ς ρ) (p : Peer δ ς) (srtp : ς) (packets : List Plain) :
    Outward p (WhepSession.sendPackets engines p srtp packets).2 := by
  induction packets generalizing srtp with
  | nil => exact .nil p
  | cons packet rest ih =>
    cases packet with
    | rtp packet => exact (rtpSends engines p srtp packet).append (ih _)
    | rtcp packet => exact (rtcpSends engines p srtp packet).append (ih _)

theorem frameMoves (engines : Engines δ ς ρ) (s : WhepSession δ ς) (track : Nat) (key : Bool)
    (packets : List Plain) (ok : Bool) :
    Kept s.peer (s.onFrame engines track key packets ok).1.peer ∧
      Outward s.peer (s.onFrame engines track key packets ok).2 := by
  unfold WhepSession.onFrame
  split
  · exact ⟨.refl _,.nil _⟩
  · rename_i srtp _
    have sends := packetsSend engines s.peer srtp packets
    simp only
    split
    · exact ⟨.refl _,.nil _⟩
    · refine ⟨⟨rfl,rfl,rfl,rfl,rfl⟩,?_⟩
      split
      · exact sends
      · exact sends.append (.post _)

theorem srtpMoves (engines : Engines δ ς ρ) (s : WhipSession δ ς ρ) (packet : Bytes) :
    Kept s.peer (s.handleSrtp engines packet).1.peer ∧
      Outward s.peer (s.handleSrtp engines packet).2 := by
  unfold WhipSession.handleSrtp
  split
  · rename_i srtp receiver _ _
    simp only
    generalize (if isRtcp packet = true then engines.unprotectRtcp srtp packet
      else engines.unprotectRtp srtp packet) = unprotected
    obtain ⟨next,clear⟩ := unprotected
    cases clear with
    | none => exact ⟨⟨rfl,rfl,rfl,rfl,rfl⟩,.nil _⟩
    | some clear =>
      simp only
      generalize (if isRtcp packet = true then engines.inputRtcp receiver clear
        else engines.inputRtp receiver clear) = fed
      obtain ⟨fed,accepted⟩ := fed
      refine ⟨⟨rfl,rfl,rfl,rfl,rfl⟩,?_⟩
      cases accepted with
      | true => exact .nil _
      | false => exact .post _
  · exact ⟨.refl _,.nil _⟩

theorem Outward.move {source : Option (Bytes × Endpoint)} {after : Peer δ ς}
    (same : Kept before after) (outward : Outward before effects) :
    Move hashes source before after effects :=
  .kept same (fun f member => (outward f member).1) fun f member inbound => by
    simp [(outward f member).2] at inbound

theorem Outward.after {after : Peer δ ς} {input : Effect} (same : Kept before after)
    (outward : Outward before effects) (remote : before.remoteEndpoint = some endpoint)
    (inbound : input = .toDtls endpoint packet ∨ input = .toSrtp endpoint packet) :
    Move hashes (some (packet,endpoint)) before after (input :: effects) := by
  refine .kept same ?_ ?_
  · intro f member
    rcases List.mem_cons.mp member with first | later
    · subst f; rcases inbound with rfl | rfl <;> exact remote
    · exact (outward f later).1
  · intro f member some_
    rcases List.mem_cons.mp member with first | later
    · subst f; rcases inbound with rfl | rfl <;> rfl
    · simp [(outward f later).2] at some_

def WhepEvent.source : WhepEvent → Option (Bytes × Endpoint)
  | .datagram packet endpoint => some (packet,endpoint)
  | _ => none

def WhipEvent.source : WhipEvent → Option (Bytes × Endpoint)
  | .datagram packet endpoint => some (packet,endpoint)
  | _ => none

theorem whepMoves (engines : Engines δ ς ρ) (hashes : Hashes) (s : WhepSession δ ς)
    (event : WhepEvent) :
    Move hashes event.source s.peer (s.handle engines hashes event).1.peer
      (s.handle engines hashes event).2 := by
  cases event with
  | datagram packet endpoint =>
    simp only [WhepSession.handle,WhepSession.handlePacket,WhepEvent.source]
    split
    · exact Outward.move (.refl _) (.nil _)
    · rename_i usable
      split
      · exact stunMoves hashes s.peer packet endpoint (by simp at usable; exact usable.1)
      · split
        · exact Outward.move (.refl _) (.nil _)
        · rename_i remote
          split
          · obtain ⟨same,outward⟩ := dtlsMoves engines s.peer packet
            exact outward.after same (not_not.mp remote) (.inl rfl)
          · exact Outward.move (.refl _) (.nil _)
  | frame track key packets ok =>
    obtain ⟨same,outward⟩ := frameMoves engines s track key packets ok
    exact outward.move same
  | dtlsTimeout =>
    obtain ⟨same,outward⟩ := timeoutMoves engines s.peer
    exact outward.move same
  | shutdown =>
    simp only [WhepSession.handle,WhepSession.safeShutdown]
    split
    · exact Outward.move (.refl _) (.nil _)
    · exact .closed rfl rfl rfl

theorem whipMoves (engines : Engines δ ς ρ) (hashes : Hashes) (s : WhipSession δ ς ρ)
    (event : WhipEvent) :
    Move hashes event.source s.peer (s.handle engines hashes event).1.peer
      (s.handle engines hashes event).2 := by
  cases event with
  | datagram packet endpoint =>
    simp only [WhipSession.handle,WhipSession.handlePacket,WhipEvent.source]
    split
    · exact Outward.move (.refl _) (.nil _)
    · rename_i usable
      split
      · exact stunMoves hashes s.peer packet endpoint (by simp at usable; exact usable.1)
      · split
        · exact Outward.move (.refl _) (.nil _)
        · rename_i remote
          split
          · obtain ⟨same,outward⟩ := dtlsMoves engines s.peer packet
            exact outward.after same (not_not.mp remote) (.inl rfl)
          · split
            · obtain ⟨same,outward⟩ := srtpMoves engines s packet
              exact outward.after same (not_not.mp remote) (.inr rfl)
            · exact Outward.move (.refl _) (.nil _)
  | dtlsTimeout =>
    simp only [WhipSession.handle]
    split
    · exact Outward.move (.refl _) (.nil _)
    · obtain ⟨same,outward⟩ := timeoutMoves engines s.peer
      exact outward.move same
  | shutdown => exact .closed rfl rfl rfl

def SameCredentials (start p : Peer δ ς) : Prop :=
  p.localPort = 0 ∨ p.username = start.username ∧ p.icePwd = start.icePwd

theorem Move.credentials {source : Option (Bytes × Endpoint)} {start after : Peer δ ς}
    (move : Move hashes source before after effects) (now : SameCredentials start before) :
    SameCredentials start after := by
  cases move with
  | kept same =>
    unfold SameCredentials Peer.username at *
    rw [same.port,same.ufrag,same.remoteUfrag,same.pwd]
    exact now
  | nominated packet endpoint from_ opened nominates set => subst set; exact now
  | closed alone shut => subst shut; exact .inl rfl

structure Nominated (hashes : Hashes) (start : Peer δ ς) (source : Option (Bytes × Endpoint))
    (before after : Peer δ ς) (effects : List Effect) : Prop where
  set : ∀ endpoint, after.remoteEndpoint = some endpoint →
    before.remoteEndpoint ≠ some endpoint →
    ∃ packet, source = some (packet,endpoint) ∧ Nominates hashes start packet
  input : ∀ endpoint packet, Effect.toDtls endpoint packet ∈ effects ∨
    Effect.toSrtp endpoint packet ∈ effects → source = some (packet,endpoint) ∧
    before.remoteEndpoint = some endpoint ∧ after.remoteEndpoint = some endpoint
  output : ∀ kind endpoint packet, Effect.sent kind endpoint packet ∈ effects → kind ≠ .stun →
    before.remoteEndpoint = some endpoint ∧ after.remoteEndpoint = some endpoint
  other : ∀ packet endpoint, source = some (packet,endpoint) → ¬Nominates hashes start packet →
    after.remoteEndpoint = before.remoteEndpoint

theorem Move.round {source : Option (Bytes × Endpoint)} {start after : Peer δ ς}
    (move : Move hashes source before after effects) (now : SameCredentials start before) :
    Nominated hashes start source before after effects := by
  cases move with
  | kept same bound inbound =>
    refine ⟨?_,?_,?_,?_⟩
    · intro endpoint set before
      rw [same.remote] at set
      exact absurd set before
    · intro endpoint packet input
      rw [same.remote]
      rcases input with dtls | srtp
      · exact ⟨(inbound _ dtls rfl).symm,bound _ dtls,bound _ dtls⟩
      · exact ⟨(inbound _ srtp rfl).symm,bound _ srtp,bound _ srtp⟩
    · intro kind endpoint packet sent media
      rw [same.remote]
      have aimed := bound _ sent
      cases kind with
      | stun => contradiction
      | dtls => exact ⟨aimed,aimed⟩
      | rtp => exact ⟨aimed,aimed⟩
      | rtcp => exact ⟨aimed,aimed⟩
    · intro packet endpoint _ _
      exact same.remote
  | nominated packet endpoint from_ opened nominates set quiet =>
    have credentials : before.username = start.username ∧ before.icePwd = start.icePwd :=
      now.resolve_left opened
    have nominates : Nominates hashes start packet := by
      unfold Nominates at nominates ⊢
      rw [← credentials.1,← credentials.2]
      exact nominates
    refine ⟨?_,?_,?_,?_⟩
    · intro other remote _
      subst set
      cases Option.some.inj remote
      exact ⟨packet,from_,nominates⟩
    · intro other packet input
      rcases input with dtls | srtp
      · exact absurd (quiet _ dtls).1 (by simp [Effect.inbound])
      · exact absurd (quiet _ srtp).1 (by simp [Effect.inbound])
    · intro kind other packet sent media
      have no := (quiet _ sent).2
      cases kind <;> simp [Effect.media] at no media
    · intro packet' endpoint' same not
      rw [from_] at same
      cases Option.some.inj same
      exact absurd nominates not
  | closed alone shut silent =>
    subst shut silent
    refine ⟨?_,?_,?_,?_⟩
    · intro endpoint set _
      simp [Peer.close] at set
    · simp
    · simp
    · intro packet endpoint from_
      rw [alone] at from_
      contradiction

theorem whepRounds (engines : Engines δ ς ρ) (hashes : Hashes) (start : WhepSession δ ς)
    (events : List WhepEvent) :
    ∀ r ∈ rounds (WhepSession.handle engines hashes) start events,
      Nominated hashes start.peer r.event.source r.state.peer r.next.peer r.effects := by
  intro r member
  obtain ⟨now,taken⟩ := roundsInvariant (P := fun s => SameCredentials start.peer s.peer)
    (.inr ⟨rfl,rfl⟩) (fun s e now => (whepMoves engines hashes s e).credentials now) r member
  have move := (whepMoves engines hashes r.state r.event).round now
  rw [taken] at move
  exact move

theorem whipRounds (engines : Engines δ ς ρ) (hashes : Hashes) (start : WhipSession δ ς ρ)
    (events : List WhipEvent) :
    ∀ r ∈ rounds (WhipSession.handle engines hashes) start events,
      Nominated hashes start.peer r.event.source r.state.peer r.next.peer r.effects := by
  intro r member
  obtain ⟨now,taken⟩ := roundsInvariant (P := fun s => SameCredentials start.peer s.peer)
    (.inr ⟨rfl,rfl⟩) (fun s e now => (whipMoves engines hashes s e).credentials now) r member
  have move := (whipMoves engines hashes r.state r.event).round now
  rw [taken] at move
  exact move

theorem iceNomination (engines : Engines δ ς ρ) (hashes : Hashes) :
    (∀ (start : WhepSession δ ς) (events : List WhepEvent),
      (∀ r ∈ rounds (WhepSession.handle engines hashes) start events,
        Nominated hashes start.peer r.event.source r.state.peer r.next.peer r.effects) ∧
      ∀ endpoint, start.peer.remoteEndpoint = none →
        (final (WhepSession.handle engines hashes) start events).peer.remoteEndpoint =
          some endpoint →
        ∃ packet, WhepEvent.datagram packet endpoint ∈ events ∧
          Nominates hashes start.peer packet) ∧
    (∀ (start : WhipSession δ ς ρ) (events : List WhipEvent),
      (∀ r ∈ rounds (WhipSession.handle engines hashes) start events,
        Nominated hashes start.peer r.event.source r.state.peer r.next.peer r.effects) ∧
      ∀ endpoint, start.peer.remoteEndpoint = none →
        (final (WhipSession.handle engines hashes) start events).peer.remoteEndpoint =
          some endpoint →
        ∃ packet, WhipEvent.datagram packet endpoint ∈ events ∧
          Nominates hashes start.peer packet) := by
  constructor
  · intro start events
    refine ⟨whepRounds engines hashes start events,?_⟩
    intro endpoint fresh last
    obtain ⟨r,member,before,after⟩ := established
      (P := fun s : WhepSession δ ς => s.peer.remoteEndpoint = some endpoint)
      (by simp [fresh]) last
    obtain ⟨packet,from_,nominates⟩ :=
      (whepRounds engines hashes start events r member).set endpoint after before
    refine ⟨packet,?_,nominates⟩
    have event := roundsEvent r member
    cases kind : r.event with
    | datagram packet' endpoint' =>
      rw [kind] at from_ event
      cases Option.some.inj from_
      exact event
    | _ => rw [kind] at from_; contradiction
  · intro start events
    refine ⟨whipRounds engines hashes start events,?_⟩
    intro endpoint fresh last
    obtain ⟨r,member,before,after⟩ := established
      (P := fun s : WhipSession δ ς ρ => s.peer.remoteEndpoint = some endpoint)
      (by simp [fresh]) last
    obtain ⟨packet,from_,nominates⟩ :=
      (whipRounds engines hashes start events r member).set endpoint after before
    refine ⟨packet,?_,nominates⟩
    have event := roundsEvent r member
    cases kind : r.event with
    | datagram packet' endpoint' =>
      rw [kind] at from_ event
      cases Option.some.inj from_
      exact event
    | _ => rw [kind] at from_; contradiction

def idleEngines : Engines Unit Unit Unit where
  startup _ := ((),[],true)
  connected _ := false
  handleDatagram _ _ := ((),[],true)
  handleTimeout _ := ((),[],true)
  startSrtp _ := none
  protectRtp _ packet := ((),some packet)
  protectRtcp _ packet := ((),some packet)
  unprotectRtp _ packet := ((),some packet)
  unprotectRtcp _ packet := ((),some packet)
  inputRtp _ _ := ((),true)
  inputRtcp _ _ := ((),true)

def idlePeer : Peer Unit Unit := ⟨9,[97],[],[98],none,some (),none⟩

def viewer : Endpoint := ⟨.v4 (Vector.replicate 4 1),5⟩

def nomination : Bytes :=
  makeStunBindingRequest plainHashes (Vector.replicate 12 7) [97,58,98] [] 1 2

theorem viewerNominated : ∃ packet,
    WhepEvent.datagram packet viewer ∈ [WhepEvent.dtlsTimeout,.datagram nomination viewer] ∧
      Nominates plainHashes idlePeer packet :=
  ((iceNomination idleEngines plainHashes).1 ⟨idlePeer,true,none⟩
    [.dtlsTimeout,.datagram nomination viewer]).2 viewer rfl (by decide +kernel)

end MediaServer.Webrtc
