import MediaServer.PlayTokens

/-! live_session.go, gb_playback.go: a start that fails. Every exit of startLive, invite and
the goroutine of startPlayback closes established last. A start has failed when it returns
and never set liveStreaming; the number of its SSRC may by then belong to a new session. -/
namespace MediaServer.Signaling

section
variable {s : State} {x : Sid} {o : Session}

theorem failedUnstored (rooted : Rooted s.shared s.tasks) (here : s.shared.heap x = some o)
    (returned : 0 < o.established) (failed : o.streamed = false) : s.shared.current x o = false := by
  have good := rooted.good x o here
  have started := good.started
  have owned := good.owned
  by_contra stored
  have stored := Bool.of_not_eq_false stored
  have idle : o.state ≠ .streaming := fun state => by
    have streamed := (good.streams state).2.1
    exact nomatch failed.symm.trans streamed
  have busy : weigh SessionFrame.owns (Pool.view (about x) s.tasks) = 1 :=
    owned.trans (if_pos ⟨stored,idle⟩)
  have none : weigh SessionFrame.owns (Pool.view (about x) s.tasks) = 0 := by
    refine weighZero fun f mem => ?_
    have later : f.starting = 0 := by
      have below := weighMem (w := SessionFrame.starting) mem
      simp only at started
      omega
    by_contra owner
    have owner : f.owns = 1 := by
      have most := weighMem (w := SessionFrame.owns) mem
      omega
    exact nomatch failed.symm.trans (SessionFrame.ownerStreamed owner later (good.fits f mem))
  omega

theorem unstoredUnnamed (reached : Reached s) (here : s.shared.heap x = some o)
    (gone : s.shared.current x o = false) {v : String} {token : StreamToken}
    (found : s.shared.tokens.get v = some token) : token.streamID ≠ o.streamID := by
  intro same
  have apart := reachedApart reached
  have session : Uses s.shared token.streamID .session := ⟨x,o,here,same.symm⟩
  rcases (reachedTokens reached).1.owned v token found with
    ⟨y,p,stored,stream⟩ | ⟨d,pull,held,stream⟩ | ⟨d,run,held,stream⟩
  · have self := (reachedRooted reached).distinct x y o p here stored.here (same.symm.trans stream.symm)
    subst self
    cases Option.some.inj (here.symm.trans stored.here)
    exact nomatch gone.symm.trans stored.current
  · exact nomatch apart.apart _ .session .pull session ⟨d,pull,held,stream⟩
  · exact nomatch apart.apart _ .session .credential session
      (.inr (.inr ⟨_,(reachedPush reached).verified d run held,stream⟩))

end

theorem failedStartClean {s : State} (reached : Reached s) {x : Sid} {o : Session}
    (here : s.shared.heap x = some o) (returned : 0 < o.established) (failed : o.streamed = false) :
    ¬ Stored s.shared x o ∧ o.done = 1 ∧ o.released = 1 ∧
    (o.ssrc % 10000 ∈ s.shared.ssrcs.active →
      ∃ y p, y ≠ x ∧ Stored s.shared y p ∧ p.ssrc % 10000 = o.ssrc % 10000) ∧
    (∀ v token, s.shared.tokens.get v = some token → token.streamID ≠ o.streamID) ∧
    (o.created = true → 0 < o.deletes) ∧
    (o.sent.filter (·.method == .bye)).length = if o.answer then 1 else 0 := by
  have rooted := reachedRooted reached
  have gone := failedUnstored rooted here returned failed
  have unstored : ¬ Stored s.shared x o := fun stored => nomatch gone.symm.trans stored.current
  obtain ⟨done,released⟩ := (storedDone rooted here).2 unstored
  have settled := (rooted.good x o here).settled returned failed
  refine ⟨unstored,done,released,?_,fun v token found => unstoredUnnamed reached here gone found,
    settled.2,?_⟩
  · intro used
    obtain ⟨y,p,stored,same⟩ := ((reachedAllotted reached).active _).mp used
    refine ⟨y,p,?_,stored,same⟩
    intro self
    subst self
    cases Option.some.inj (here.symm.trans stored.here)
    exact unstored stored
  · have byes := settled.1
    cases answer : o.answer <;> rw [answer] at byes <;> exact byes

def ackFails : List Action :=
  [.call (.live (.startLive "d" "c" {} 0 "u")),.run 0 .ok,.run 0 (.port 6000),.run 0 .ok,.run 0 .ok,
    .run 0 .ok,.run 0 (.cseq 1),.run 0 .ok,.run 0 .accepted,.run 0 .ok,.run 0 .fail,.run 0 .ok,
    .run 0 .ok,.run 0 .ok,.run 0 .ok,.run 0 .ok,.run 0 .ok,.run 0 .ok]

theorem ackFailsClean : ∃ s o, Reached s ∧ s.shared.heap 0 = some o ∧ 0 < o.established ∧
    o.streamed = false ∧ o.created = true ∧ o.answer = true ∧ ¬ Stored s.shared 0 o ∧ 0 < o.deletes ∧
    (o.sent.filter (·.method == .bye)).length = 1 := by
  have ends : (Transition.run step firstStart ackFails).any (fun s => (s.shared.heap 0).any fun o =>
      decide (0 < o.established ∧ o.streamed = false ∧ o.created = true ∧ o.answer = true)) = true := by
    decide
  obtain ⟨s,reached,ends⟩ := reachedBy ends
  obtain ⟨o,here,ends⟩ := (Option.any_eq_true ..).mp ends
  simp only [decide_eq_true_eq] at ends
  obtain ⟨returned,failed,created,answer⟩ := ends
  obtain ⟨gone,_,_,_,_,deleted,byes⟩ := failedStartClean reached here returned failed
  rw [answer] at byes
  exact ⟨s,o,reached,here,returned,failed,created,answer,gone,deleted created,byes⟩

end MediaServer.Signaling
