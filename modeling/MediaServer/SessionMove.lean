import MediaServer.LiveSession

/-! What a section can do to its session: one constructor for each way a section ends, so
that later arguments go by cases on these and not on the code. -/
namespace MediaServer.Signaling

namespace StartStage

def early : StartStage → Bool
  | .online | .create => true
  | _ => false

def ticketless : StartStage → Bool
  | .online | .create | .prepared _ => true
  | _ => false

def invited : StartStage → Bool
  | .init | .answer _ _ _ | .storeAnswer | .ack | .verify | .confirm => true
  | _ => false

def answered : StartStage → Bool
  | .ack | .verify | .confirm => true
  | _ => false

inductive Leads : StartStage → StartStage → Prop where
  | found : Leads .online .create
  | claimed : Leads .ticket .target
  | built : Leads .sdp .transaction
  | opened : Leads .transaction .storeInvite
  | sent : Leads .init (.answer false false false)
  | waiting (p c q p' c' q') : Leads (.answer p c q) (.answer p' c' q')
  | accepted (p c q) : Leads (.answer p c q) .storeAnswer
  | acked : Leads .ack .verify
  | verified : Leads .verify .confirm

theorem Leads.keeps {stage later : StartStage} (leads : stage.Leads later) :
    later.early = (stage.early && later.early) ∧ later.ticketless = stage.ticketless ∧
      later.invited = stage.invited ∧ later.answered = stage.answered := by
  cases leads <;> exact ⟨rfl,rfl,rfl,rfl⟩

end StartStage

def SessionFrame.outside : SessionFrame → Bool
  | .stop _ | .waitDone _ | .finish _ | .remoteBye | .control .tryLock | .join | .caller => true
  | _ => false

def After.frame : After → SessionFrame
  | .clean role => .clean role .delete
  | .drain => .drain

inductive Moves (o : Session) (current : Bool) : SessionFrame → Effect → Prop where
  | advance {stage later} (leads : stage.Leads later) :
      Moves o current (.start stage) {session := o, next := [.start later]}
  | abandoned {stage act} (early : stage.early = true) (quiet : act = .none ∨ act = .create false) :
      Moves o current (.start stage) {session := o, act := act, next := [.clean .starter .remove]}
  | created (port) :
      Moves o current (.start .create)
        {session := {o with created := true}, act := .create true, next := [.start (.prepared port)]}
  | ticketed (port value) (history : o.history = true) (state : o.state = .preparing)
      (context : o.ctxErr = false) :
      Moves o current (.start (.prepared port))
        {session := {o with rtpPort := port, tickets := o.tickets + 1}, act := .issue value
         next := [.start .ticket]}
  | inviting {stage} (port) (ready : stage = .target ∨ stage = .prepared port)
      (state : o.state = .preparing) :
      Moves o current (.start stage)
        {session := {o with rtpPort := port, state := .inviting}, next := [.start .sdp]}
  | inviteStored (first) :
      Moves o current (.start .storeInvite)
        {session := {o with invite := some first}, next := [.start .init]}
  | answerStored :
      Moves o current (.start .storeAnswer)
        {session := {o with answer := true}, next := [.start .ack]}
  | confirmed (state : o.state = .inviting) (context : o.ctxErr = false) :
      Moves o current (.start .confirm)
        {session := {o with state := .streaming, streamed := true}, next := [.established]}
  | failed {stage} (port) (late : stage.early = false) :
      Moves o current (.start stage)
        {session := {o with rtpPort := port}, next := [.clean .starter (.begin stage.answered)]}
  | hangsUp (role) (answer : o.answer = true) :
      Moves o current (.clean role (.begin true))
        {session := o, next := [.bye (.clean role) .lock]}
  | skipsBye {role sendBye} (quiet : sendBye = true → o.answer = false) :
      Moves o current (.clean role (.begin sendBye)) {session := o, next := [.clean role .delete]}
  | deleted (role gone) :
      Moves o current (.clean role .delete)
        {session := {o with deletes := o.deletes + 1}, act := .delete gone
         next := [.clean role .remove]}
  | removed (role) (here : current = true) :
      Moves o current (.clean role .remove)
        {session := {o with ctxErr := true, done := o.done + 1, released := o.released + 1}
         act := .remove, next := role.rest}
  | missing (role) (gone : current = false) :
      Moves o current (.clean role .remove) {session := o, next := role.rest}
  | byeLocked (after) (free : o.dialog = false) :
      Moves o current (.bye after .lock)
        {session := {o with dialog := true}, next := [.bye after .send]}
  | byeSent (after) {o' : Session} (next : o.nextDialogRequest .bye = some o') :
      Moves o current (.bye after .send) {session := o', next := [.bye after .wait]}
  | byeEnded (after) :
      Moves o current (.bye after .wait)
        {session := {o with dialog := false}, next := [after.frame]}
  | drained : Moves o current .drain {session := o, next := [.clean .stopper (.begin false)]}
  | returned : Moves o current .established {session := {o with established := o.established + 1}}
  | stopsStream (patient) (here : current = true) (state : o.state = .streaming) :
      Moves o current (.stop patient)
        {session := {o with state := .stopping, ctxErr := true}, act := .revoke
         next := [.clean .stopper (.begin true)]}
  | stopsStart (patient) (here : current = true) (state : o.state ≠ .streaming) :
      Moves o current (.stop patient)
        {session := {o with state := .stopping, ctxErr := true}, act := .revoke
         next := [.waitDone patient]}
  | finished (sendBye) (here : current = true) (state : o.state = .streaming)
      (ready : 0 < o.established) :
      Moves o current (.finish sendBye)
        {session := {o with state := .stopping}, act := .revoke
         spawned := [if sendBye then .bye .drain .lock else .drain]}
  | byeReceived (here : current = true) (state : o.state = .streaming) :
      Moves o current .remoteBye
        {session := {o with state := .stopping}, act := .revoke
         spawned := [.clean .stopper (.begin false)]}
  | controlLocked (free : o.dialog = false) :
      Moves o current (.control .tryLock)
        {session := {o with dialog := true}, next := [.control .check]}
  | controlChecked (here : current = true) (state : o.state = .streaming) (context : o.ctxErr = false) :
      Moves o current (.control .check) {session := o, next := [.control .send]}
  | controlRefused : Moves o current (.control .check) {session := o, next := [.control .unlock]}
  | controlSent {o' : Session} (next : o.nextDialogRequest .info = some o') :
      Moves o current (.control .send) {session := o', next := [.control .wait]}
  | controlAnswered : Moves o current (.control .wait) {session := o, next := [.control .unlock]}
  | controlUnlocked : Moves o current (.control .unlock) {session := {o with dialog := false}}
  | callerStops : Moves o current .caller {session := o, next := [.stop false]}
  | leaves {f} (outside : f.outside = true) (reason : ∀ patient, f = .waitDone patient →
      patient = true → 0 < o.done) (absent : ∀ patient, f = .stop patient → current = false) :
      Moves o current f {session := o}

variable {o : Session} {current : Bool} {r : Reply} {e : Effect}

theorem startMoves {stage : StartStage} (ok : startStep o r stage = some e) :
    Moves o current (.start stage) e := by
  cases stage with
  | online =>
    simp only [startStep] at ok
    split at ok <;> try contradiction
    · cases Option.some.inj ok; exact .advance .found
    · cases Option.some.inj ok; exact .abandoned rfl (.inl rfl)
  | create =>
    simp only [startStep] at ok
    split at ok <;> try contradiction
    · cases Option.some.inj ok; exact .created _
    · cases Option.some.inj ok; exact .abandoned rfl (.inr rfl)
  | prepared port =>
    simp only [startStep] at ok
    split at ok
    · rename_i history
      split at ok
      · cases Option.some.inj ok; exact .failed port rfl
      · rename_i ready
        simp only [not_or,ne_eq,not_not,Bool.not_eq_true] at ready
        split at ok <;> try contradiction
        · cases Option.some.inj ok; exact .ticketed _ _ history ready.1 ready.2
        · cases Option.some.inj ok; exact .failed port rfl
    · split at ok
      · cases Option.some.inj ok; exact .failed port rfl
      · rename_i state
        cases Option.some.inj ok; exact .inviting port (.inr rfl) (not_not.mp state)
  | ticket =>
    simp only [startStep] at ok
    split at ok <;> try contradiction
    · split at ok <;> try contradiction
      cases Option.some.inj ok; exact .advance .claimed
    · cases Option.some.inj ok; exact .failed o.rtpPort rfl
    · split at ok <;> try contradiction
      cases Option.some.inj ok; exact .failed o.rtpPort rfl
  | target =>
    simp only [startStep] at ok
    split at ok
    · cases Option.some.inj ok; exact .failed o.rtpPort rfl
    · rename_i ready
      simp only [not_or,ne_eq,not_not] at ready
      cases Option.some.inj ok; exact .inviting o.rtpPort (.inl rfl) ready.1
  | sdp =>
    simp only [startStep] at ok
    split at ok
    · cases Option.some.inj ok; exact .advance .built
    · cases Option.some.inj ok; exact .failed o.rtpPort rfl
  | transaction =>
    simp only [startStep] at ok
    split at ok
    · cases Option.some.inj ok; exact .advance .opened
    · cases Option.some.inj ok; exact .failed o.rtpPort rfl
  | storeInvite =>
    simp only [startStep] at ok
    split at ok <;> try contradiction
    cases Option.some.inj ok; exact .inviteStored _
  | init =>
    simp only [startStep] at ok
    split at ok
    · cases Option.some.inj ok; exact .advance .sent
    · cases Option.some.inj ok; exact .failed o.rtpPort rfl
  | answer p c q =>
    simp only [startStep] at ok
    split at ok <;> try contradiction
    · cases Option.some.inj ok; exact .advance (.waiting ..)
    · split at ok <;> try contradiction
      cases Option.some.inj ok; exact .advance (.waiting ..)
    · cases Option.some.inj ok; exact .advance (.accepted ..)
    · cases Option.some.inj ok; exact .failed o.rtpPort rfl
    · split at ok <;> try contradiction
      cases Option.some.inj ok; exact .failed o.rtpPort rfl
  | storeAnswer =>
    simp only [startStep] at ok
    cases Option.some.inj ok; exact .answerStored
  | ack =>
    simp only [startStep] at ok
    split at ok
    · cases Option.some.inj ok; exact .advance .acked
    · cases Option.some.inj ok; exact .failed o.rtpPort rfl
  | verify =>
    simp only [startStep] at ok
    split at ok
    · cases Option.some.inj ok; exact .failed o.rtpPort rfl
    · cases Option.some.inj ok; exact .advance .verified
  | confirm =>
    simp only [startStep] at ok
    split at ok
    · cases Option.some.inj ok; exact .failed o.rtpPort rfl
    · rename_i ready
      simp only [not_or,ne_eq,not_not,Bool.not_eq_true] at ready
      cases Option.some.inj ok; exact .confirmed ready.1 ready.2

theorem cleanMoves {role : Role} {stage : CleanStage} (ok : cleanStep o current r role stage = some e) :
    Moves o current (.clean role stage) e := by
  cases stage with
  | begin sendBye =>
    simp only [cleanStep] at ok
    cases Option.some.inj ok
    split
    · rename_i both
      obtain ⟨wanted,answer⟩ := Bool.and_eq_true_iff.mp both
      subst wanted
      exact .hangsUp role answer
    · rename_i either
      exact .skipsBye fun wanted => by simpa [wanted] using either
  | delete =>
    simp only [cleanStep] at ok
    cases Option.some.inj ok; exact .deleted role _
  | remove =>
    simp only [cleanStep] at ok
    split at ok
    · rename_i here
      cases Option.some.inj ok; exact .removed role here
    · rename_i gone
      cases Option.some.inj ok; exact .missing role (eq_false_of_ne_true gone)

theorem byeMoves {after : After} {stage : ByeStage} (ok : byeStep o after stage = some e) :
    Moves o current (.bye after stage) e := by
  cases stage with
  | lock =>
    simp only [byeStep] at ok
    split at ok <;> try contradiction
    rename_i free
    cases Option.some.inj ok; exact .byeLocked after (eq_false_of_ne_true free)
  | send =>
    simp only [byeStep] at ok
    obtain ⟨o',next,same⟩ := Option.map_eq_some_iff.mp ok
    subst same
    exact .byeSent after next
  | wait =>
    simp only [byeStep] at ok
    cases Option.some.inj ok
    cases after <;> exact .byeEnded _

theorem controlMoves {stage : ControlStage} (ok : controlStep o current stage = some e) :
    Moves o current (.control stage) e := by
  cases stage with
  | tryLock =>
    simp only [controlStep] at ok
    split at ok
    · cases Option.some.inj ok; exact .leaves rfl nofun nofun
    · rename_i free
      cases Option.some.inj ok; exact .controlLocked (eq_false_of_ne_true free)
  | check =>
    simp only [controlStep] at ok
    split at ok
    · rename_i ready
      cases Option.some.inj ok; exact .controlChecked ready.1 ready.2.1 ready.2.2
    · cases Option.some.inj ok; exact .controlRefused
  | send =>
    simp only [controlStep] at ok
    obtain ⟨o',next,same⟩ := Option.map_eq_some_iff.mp ok
    subst same
    exact .controlSent next
  | wait =>
    simp only [controlStep] at ok
    cases Option.some.inj ok; exact .controlAnswered
  | unlock =>
    simp only [controlStep] at ok
    cases Option.some.inj ok; exact .controlUnlocked

theorem stepMoves {f : SessionFrame} (ok : f.step o current r = some e) : Moves o current f e := by
  cases f with
  | start stage => exact startMoves ok
  | clean role stage => exact cleanMoves ok
  | bye after stage => exact byeMoves ok
  | control stage => exact controlMoves ok
  | drain =>
    simp only [SessionFrame.step] at ok
    split at ok <;> try contradiction
    cases Option.some.inj ok; exact .drained
  | established =>
    simp only [SessionFrame.step] at ok
    cases Option.some.inj ok; exact .returned
  | stop patient =>
    simp only [SessionFrame.step] at ok
    split at ok
    · rename_i here
      cases Option.some.inj ok
      split
      · rename_i state; exact .stopsStream patient here state
      · rename_i state; exact .stopsStart patient here state
    · rename_i gone
      cases Option.some.inj ok
      exact .leaves rfl nofun fun _ _ => eq_false_of_ne_true gone
  | waitDone patient =>
    simp only [SessionFrame.step] at ok
    split at ok <;> try contradiction
    rename_i complete
    cases Option.some.inj ok
    refine .leaves rfl ?_ nofun
    intro patient' same waits
    cases same
    rcases complete with closed | ⟨tired,_⟩
    · exact closed
    · exact nomatch waits.symm.trans tired
  | finish sendBye =>
    simp only [SessionFrame.step] at ok
    split at ok <;> try contradiction
    rename_i ready
    split at ok
    · rename_i streams
      cases Option.some.inj ok
      exact .finished sendBye streams.1 streams.2 (Nat.pos_of_ne_zero ready)
    · cases Option.some.inj ok; exact .leaves rfl nofun nofun
  | remoteBye =>
    simp only [SessionFrame.step] at ok
    split at ok
    · rename_i streams
      cases Option.some.inj ok; exact .byeReceived streams.1 streams.2
    · cases Option.some.inj ok; exact .leaves rfl nofun nofun
  | join =>
    simp only [SessionFrame.step] at ok
    split at ok <;> try contradiction
    cases Option.some.inj ok; exact .leaves rfl nofun nofun
  | caller =>
    simp only [SessionFrame.step] at ok
    split at ok
    · cases Option.some.inj ok; exact .callerStops
    · cases Option.some.inj ok; exact .leaves rfl nofun nofun

end MediaServer.Signaling
