import MediaServer.SessionReach
import MediaServer.StreamStock

/-! push_device_store.go, push_http.go: push credentials are used once. The rule is split
between the UPDATE of the store, the prepared table and the runs; the invariant ties the
three together. -/
namespace MediaServer.Signaling

inductive PushChange (s t : Server) : Prop where
  | kept (prepared : ∀ v e, t.prepared.get v = some e → s.prepared.get v = some e)
      (rows : ∀ d row, t.pushDevices.get d = some row → ∃ old, s.pushDevices.get d = some old ∧
        row = {old with name := row.name, protocol := row.protocol})
      (runs : ∀ d run, t.pushRuns.get d = some run → s.pushRuns.get d = some run)
      (publications : t.publications = s.publications)
  | prepares (value : String) (unused : value ∉ s.drawn) (drawn : value ∈ t.drawn)
      (prepared : ∀ v e, t.prepared.get v = some e → v = value ∨ s.prepared.get v = some e)
      (rows : t.pushDevices = s.pushDevices) (runs : t.pushRuns = s.pushRuns)
      (publications : t.publications = s.publications)
  | creates (d : String) (row : PushDevice) (unused : d ∉ s.drawn) (drawn : d ∈ t.drawn)
      (ready : ∃ e, s.prepared.get row.credential = some e)
      (prepared : ∀ v e, t.prepared.get v = some e → v ≠ row.credential ∧ s.prepared.get v = some e)
      (rows : t.pushDevices = s.pushDevices.set d row) (runs : t.pushRuns = s.pushRuns)
      (publications : t.publications = s.publications)
  | renews (d : String) (row : PushDevice) (idle : s.pushRuns.get d = none)
      (known : ∃ old, s.pushDevices.get d = some old) (unused : row.credential ∉ s.drawn)
      (drawn : row.credential ∈ t.drawn) (prepared : t.prepared = s.prepared)
      (rows : t.pushDevices = s.pushDevices.set d row) (runs : t.pushRuns = s.pushRuns)
      (publications : t.publications = s.publications)
  | publishes (d : String) (row : PushDevice) (here : s.pushDevices.get d = some row)
      (unused : row.usedAt = 0) (early : unixMilli s.now < row.expiresAt)
      (prepared : t.prepared = s.prepared)
      (rows : t.pushDevices = s.pushDevices.set d {row with usedAt := unixMilli s.now})
      (runs : t.pushRuns = s.pushRuns.set d ⟨row.credential,s.now⟩)
      (publications : t.publications = s.publications ++ [(row.credential,d,s.now)])

section
variable {s t : Server}

theorem PushChange.still (prepared : ∀ v e, t.prepared.get v = some e → s.prepared.get v = some e)
    (rows : t.pushDevices = s.pushDevices) (runs : t.pushRuns = s.pushRuns)
    (publications : t.publications = s.publications) : PushChange s t :=
  .kept prepared (fun d row here => ⟨row,by rw [← rows]; exact here,rfl⟩) (fun d run here => by
    rw [← runs]; exact here) publications

theorem PushChange.refl (s : Server) : PushChange s s := .still (fun _ _ here => here) rfl rfl rfl

theorem expiredPrepared {v : String} {e : Nat} (here : s.expireTokens.prepared.get v = some e) :
    s.prepared.get v = some e := by
  simp only [Server.expireTokens,Table.getDeleteFunc] at here
  exact (Option.filter_eq_some_iff.mp here).1

variable {out : Outcome}

theorem tokenPushChange (effect : TokenEffect s out) : PushChange s out.shared := by
  have silent {t : Server} (e : Event) (log : t.log = s.log ++ [e]) (none : e.publication = none) :
      t.publications = s.publications := by
    simp [Server.publications,log,none]
  cases effect with
  | idle => exact .refl s
  | issued => exact .still (fun _ _ here => here) rfl rfl (silent _ rfl rfl)
  | claimed => exact .still (fun _ _ here => here) rfl rfl (silent _ rfl rfl)
  | played => exact .still (fun _ _ here => here) rfl rfl (silent _ rfl rfl)
  | published d row here unused early =>
    refine .publishes d row here unused early rfl rfl rfl ?_
    simp [Server.publications,Event.publication]
  | expired => exact .still (fun _ _ here => expiredPrepared here) rfl rfl rfl
  | prepared value unused =>
    refine .prepares value unused (List.mem_cons_self ..) ?_ rfl rfl rfl
    intro v e here
    rw [Table.getSet] at here
    split at here
    · rename_i same; exact .inl same
    · exact .inr (expiredPrepared here)
  | created d row unused ready =>
    obtain ⟨e,ready⟩ := ready
    refine .creates d row unused (List.mem_cons_self ..) ⟨e,expiredPrepared ready⟩ ?_ rfl rfl rfl
    intro v e here
    rw [Table.getDelete] at here
    split at here <;> try contradiction
    rename_i other
    exact ⟨other,expiredPrepared here⟩
  | patched d row name protocol here =>
    refine .kept (fun _ _ here => here) ?_ (fun _ _ here => here) rfl
    intro e new found
    rw [Table.getSet] at found
    split at found
    · rename_i self
      cases Option.some.inj found
      exact ⟨row,by rw [self]; exact here,rfl⟩
    · exact ⟨new,found,rfl⟩
  | renewed d value row deadline idle here unused =>
    exact .renews d _ idle ⟨row,here⟩ unused (List.mem_cons_self ..) rfl rfl rfl rfl
  | removed rows fewer =>
    exact .kept (fun _ _ here => here) (fun d row here => ⟨row,fewer d row here,rfl⟩)
      (fun _ _ here => here) rfl
  | stopped rows d run fewer =>
    refine .kept (fun _ _ here => here) (fun d row here => ⟨row,fewer d row here,rfl⟩) ?_ rfl
    intro e other here
    simp only [Server.dropPush,Table.getDelete] at here
    split at here <;> try contradiction
    exact here
  | entered => exact .still (fun _ _ here => here) rfl rfl rfl

theorem pushChange {frame : Option Frame} (change : StockChange s frame out) :
    PushChange s out.shared := by
  have alike (same : SameSources s out.shared) : PushChange s out.shared :=
    .still (fun v e here => by rw [← same.prepared]; exact here) same.pushDevices same.pushRuns
      same.publications
  cases change with
  | turn x f r ran run shared => exact alike (by rw [shared]; exact turnSources ran)
  | born x o fresh unused new shared => exact alike (by rw [shared]; exact bornSources ..)
  | same same => exact alike same.toSameSources
  | call effect =>
    have change := tokenPushChange effect
    exact change
  | source sourceID stage r ok =>
    have still (prepared : out.shared.prepared = s.prepared)
        (rows : out.shared.pushDevices = s.pushDevices) (runs : out.shared.pushRuns = s.pushRuns)
        (log : out.shared.publications = s.publications) : PushChange s out.shared :=
      .still (fun v e here => by rw [← prepared]; exact here) rows runs log
    cases stage with
    | reserve streamID =>
      simp only [sourceExec] at ok
      split at ok
      · cases Option.some.inj ok; exact still rfl rfl rfl rfl
      · split at ok <;> try contradiction
        cases Option.some.inj ok; exact still rfl rfl rfl rfl
    | drop | take =>
      simp only [sourceExec] at ok
      split at ok <;> cases Option.some.inj ok <;> exact still rfl rfl rfl rfl
    | _ => cases Option.some.inj ok; exact still rfl rfl rfl rfl
  | closed streamID gone => exact .still (fun _ _ here => here) rfl rfl rfl
  | pull p e rest =>
    simp only [Server.dropEndedPull]
    split
    · split
      · exact .refl s
      · refine .still (fun _ _ here => here) rfl rfl ?_
        simp [Server.publications,Server.record,Server.dropPull,Server.revokeStream,Event.publication]
    · exact .refl s
  | pushes p =>
    have dropped := dropPushesDropped p p.pushes s
    have log := passLog (dropPushesOnly p p.pushes s)
    refine .kept ?_ ?_ dropped.runs log.publications
    · rw [dropped.same]; exact fun _ _ here => here
    · rw [dropped.same]; exact fun d row here => ⟨row,here,rfl⟩

end

/- The store and the memory agree: what is prepared is in no row, a run is that of a used row,
and what was published can be published no more. -/
structure PushGood (s : Server) : Prop where
  clock : 0 < unixMilli s.now
  prepared : ∀ v e, s.prepared.get v = some e → v ∈ s.drawn
  rows : ∀ d row, s.pushDevices.get d = some row → d ∈ s.drawn ∧ row.credential ∈ s.drawn
  alone : ∀ d e row row', s.pushDevices.get d = some row → s.pushDevices.get e = some row' →
    row.credential = row'.credential → d = e
  apart : ∀ v e d row, s.prepared.get v = some e → s.pushDevices.get d = some row → row.credential ≠ v
  devices : ∀ d run, s.pushRuns.get d = some run → d ∈ s.drawn
  used : ∀ d run row, s.pushRuns.get d = some run → s.pushDevices.get d = some row →
    row.credential = run.streamID ∧ row.usedAt ≠ 0
  verified : ∀ d run, s.pushRuns.get d = some run →
    (run.streamID,d,run.verifiedAt) ∈ s.publications
  spent : ∀ p ∈ s.publications, p.1 ∈ s.drawn ∧ s.prepared.get p.1 = none ∧
    ∀ d row, s.pushDevices.get d = some row → row.credential = p.1 → row.usedAt ≠ 0
  once : (s.publications.map Prod.fst).Nodup

variable {s t : Server} {d : String} {row : PushDevice} {a : Action}

theorem PushGood.write (good : PushGood s) (drawn : s.drawn ⊆ t.drawn) (clock : 0 < unixMilli t.now)
    (rows : t.pushDevices = s.pushDevices.set d row)
    (prepared : ∀ v e, t.prepared.get v = some e → v ≠ row.credential ∧ s.prepared.get v = some e)
    (own : d ∈ t.drawn ∧ row.credential ∈ t.drawn)
    (alone : ∀ e old, e ≠ d → s.pushDevices.get e = some old → old.credential ≠ row.credential)
    (runs : ∀ e run, t.pushRuns.get e = some run → (e ≠ d ∧ s.pushRuns.get e = some run) ∨
      (e = d ∧ row.credential = run.streamID ∧ row.usedAt ≠ 0 ∧
        (run.streamID,e,run.verifiedAt) ∈ t.publications))
    (older : ∀ p ∈ s.publications, p ∈ t.publications ∧ p.1 ≠ row.credential)
    (newer : ∀ p ∈ t.publications, p ∈ s.publications ∨ (p.1 = row.credential ∧ row.usedAt ≠ 0))
    (once : (t.publications.map Prod.fst).Nodup) : PushGood t := by
  have written (e : String) (new : PushDevice) (here : t.pushDevices.get e = some new) :
      (e = d ∧ new = row) ∨ (e ≠ d ∧ s.pushDevices.get e = some new) := by
    rw [rows,Table.getSet] at here
    split at here
    · rename_i same; exact .inl ⟨same,(Option.some.inj here).symm⟩
    · rename_i other; exact .inr ⟨other,here⟩
  constructor
  case clock => exact clock
  case prepared => exact fun v e ready => drawn (good.prepared v e (prepared v e ready).2)
  case rows =>
    intro e new here
    rcases written e new here with ⟨self,same⟩ | ⟨_,old⟩
    · rw [self,same]; exact own
    · exact ⟨drawn (good.rows e new old).1,drawn (good.rows e new old).2⟩
  case alone =>
    intro e f new new' here there same
    rcases written e new here with ⟨self,shape⟩ | ⟨other,old⟩ <;>
      rcases written f new' there with ⟨self',shape'⟩ | ⟨other',old'⟩
    · rw [self,self']
    · rw [shape] at same
      exact absurd same.symm (alone f new' other' old')
    · rw [shape'] at same
      exact absurd same (alone e new other old)
    · exact good.alone e f new new' old old' same
  case apart =>
    intro v e f new ready here
    obtain ⟨other,before⟩ := prepared v e ready
    rcases written f new here with ⟨_,same⟩ | ⟨_,old⟩
    · rw [same]; exact other.symm
    · exact good.apart v e f new before old
  case devices =>
    intro e run active
    rcases runs e run active with ⟨_,old⟩ | ⟨self,_⟩
    · exact drawn (good.devices e run old)
    · rw [self]; exact own.1
  case used =>
    intro e run new active here
    rcases runs e run active with ⟨other,old⟩ | ⟨self,same,used,_⟩
    · rcases written e new here with ⟨self,_⟩ | ⟨_,before⟩
      · exact absurd self other
      · exact good.used e run new old before
    · rcases written e new here with ⟨_,shape⟩ | ⟨other,_⟩
      · rw [shape]; exact ⟨same,used⟩
      · exact absurd self other
  case verified =>
    intro e run active
    rcases runs e run active with ⟨_,old⟩ | ⟨_,_,_,logged⟩
    · exact (older _ (good.verified e run old)).1
    · exact logged
  case spent =>
    intro p mem
    refine ⟨?_,?_,?_⟩
    · rcases newer p mem with old | ⟨same,_⟩
      · exact drawn (good.spent p old).1
      · rw [same]; exact own.2
    · cases ready : t.prepared.get p.1 with
      | none => rfl
      | some e =>
        obtain ⟨other,before⟩ := prepared _ e ready
        rcases newer p mem with old | ⟨same,_⟩
        · exact nomatch (good.spent p old).2.1.symm.trans before
        · exact absurd same other
    · intro e new here same
      rcases written e new here with ⟨_,shape⟩ | ⟨other,before⟩
      · rw [shape] at same ⊢
        rcases newer p mem with old | ⟨_,used⟩
        · exact absurd same.symm (older p old).2
        · exact used
      · rcases newer p mem with old | ⟨own,_⟩
        · exact (good.spent p old).2.2 e new before same
        · exact absurd (same.trans own) (alone e new other before)
  case once => exact once

section
variable {s t : Server} (good : PushGood s) (drawn : s.drawn ⊆ t.drawn)
  (clock : 0 < unixMilli t.now)
include good drawn clock

theorem PushGood.kept
    (prepared : ∀ v e, t.prepared.get v = some e → s.prepared.get v = some e)
    (rows : ∀ d row, t.pushDevices.get d = some row → ∃ old, s.pushDevices.get d = some old ∧
      row = {old with name := row.name, protocol := row.protocol})
    (runs : ∀ d run, t.pushRuns.get d = some run → s.pushRuns.get d = some run)
    (publications : t.publications = s.publications) : PushGood t := by
  constructor
  case clock => exact clock
  case prepared => exact fun v e here => drawn (good.prepared v e (prepared v e here))
  case rows =>
    intro d row here
    obtain ⟨old,before,same⟩ := rows d row here
    obtain ⟨device,credential⟩ := good.rows d old before
    rw [same]
    exact ⟨drawn device,drawn credential⟩
  case alone =>
    intro d e row row' here there same
    obtain ⟨old,before,shape⟩ := rows d row here
    obtain ⟨old',before',shape'⟩ := rows e row' there
    rw [shape,shape'] at same
    exact good.alone d e old old' before before' same
  case apart =>
    intro v e d row ready here
    obtain ⟨old,before,shape⟩ := rows d row here
    rw [shape]
    exact good.apart v e d old (prepared v e ready) before
  case devices => exact fun d run here => drawn (good.devices d run (runs d run here))
  case used =>
    intro d run row active here
    obtain ⟨old,before,shape⟩ := rows d row here
    rw [shape]
    exact good.used d run old (runs d run active) before
  case verified =>
    intro d run active
    rw [publications]
    exact good.verified d run (runs d run active)
  case spent =>
    intro p mem
    rw [publications] at mem
    obtain ⟨known,gone,used⟩ := good.spent p mem
    refine ⟨drawn known,?_,?_⟩
    · cases ready : t.prepared.get p.1 with
      | none => rfl
      | some e => exact nomatch gone.symm.trans (prepared _ e ready)
    · intro d row here same
      obtain ⟨old,before,shape⟩ := rows d row here
      rw [shape] at same ⊢
      exact used d old before same
  case once => rw [publications]; exact good.once

theorem PushGood.prepares {value : String} (unused : value ∉ s.drawn) (fresh : value ∈ t.drawn)
    (prepared : ∀ v e, t.prepared.get v = some e → v = value ∨ s.prepared.get v = some e)
    (rows : t.pushDevices = s.pushDevices) (runs : t.pushRuns = s.pushRuns)
    (publications : t.publications = s.publications) : PushGood t := by
  constructor
  case clock => exact clock
  case prepared =>
    intro v e here
    rcases prepared v e here with same | old
    · rw [same]; exact fresh
    · exact drawn (good.prepared v e old)
  case rows =>
    intro d row here
    rw [rows] at here
    obtain ⟨device,credential⟩ := good.rows d row here
    exact ⟨drawn device,drawn credential⟩
  case alone => rw [rows]; exact good.alone
  case apart =>
    intro v e d row ready here
    rw [rows] at here
    rcases prepared v e ready with same | old
    · intro taken
      rw [← same,← taken] at unused
      exact unused (good.rows d row here).2
    · exact good.apart v e d row old here
  case devices => rw [runs]; exact fun d run here => drawn (good.devices d run here)
  case used => rw [runs,rows]; exact good.used
  case verified => rw [runs,publications]; exact good.verified
  case spent =>
    intro p mem
    rw [publications] at mem
    obtain ⟨known,gone,used⟩ := good.spent p mem
    refine ⟨drawn known,?_,by rw [rows]; exact used⟩
    cases ready : t.prepared.get p.1 with
    | none => rfl
    | some e =>
      rcases prepared _ e ready with same | old
      · rw [same] at known; exact absurd known unused
      · exact nomatch gone.symm.trans old
  case once => rw [publications]; exact good.once

variable {d : String} {row : PushDevice}

theorem PushGood.writeIdle (idle : s.pushRuns.get d = none)
    (unspent : ∀ p ∈ s.publications, p.1 ≠ row.credential)
    (rows : t.pushDevices = s.pushDevices.set d row)
    (prepared : ∀ v e, t.prepared.get v = some e → v ≠ row.credential ∧ s.prepared.get v = some e)
    (own : d ∈ t.drawn ∧ row.credential ∈ t.drawn)
    (alone : ∀ e old, e ≠ d → s.pushDevices.get e = some old → old.credential ≠ row.credential)
    (runs : t.pushRuns = s.pushRuns) (publications : t.publications = s.publications) :
    PushGood t := by
  refine good.write drawn clock rows prepared own alone ?_ ?_ ?_ ?_
  · intro e run active
    rw [runs] at active
    refine .inl ⟨?_,active⟩
    intro self
    rw [self,idle] at active
    cases active
  · exact fun p mem => ⟨by rw [publications]; exact mem,unspent p mem⟩
  · intro p mem
    rw [publications] at mem
    exact .inl mem
  · rw [publications]; exact good.once

theorem PushGood.publishes (here : s.pushDevices.get d = some row) (unused : row.usedAt = 0)
    (prepared : t.prepared = s.prepared)
    (rows : t.pushDevices = s.pushDevices.set d {row with usedAt := unixMilli s.now})
    (runs : t.pushRuns = s.pushRuns.set d ⟨row.credential,s.now⟩)
    (publications : t.publications = s.publications ++ [(row.credential,d,s.now)]) :
    PushGood t := by
  have now : unixMilli s.now ≠ 0 := Nat.ne_of_gt good.clock
  have unspent (p : String × String × Nat) (mem : p ∈ s.publications) : p.1 ≠ row.credential := by
    intro same
    exact (good.spent p mem).2.2 d row here same.symm unused
  refine good.write drawn clock rows ?_ ?_ ?_ ?_ ?_ ?_ ?_
  · intro v e ready
    rw [prepared] at ready
    exact ⟨(good.apart v e d row ready here).symm,ready⟩
  · exact ⟨drawn (good.rows d row here).1,drawn (good.rows d row here).2⟩
  · intro e old other there same
    exact other (good.alone e d old row there here same)
  · intro e run active
    rw [runs,Table.getSet] at active
    split at active
    · rename_i self
      cases Option.some.inj active
      refine .inr ⟨self,rfl,now,?_⟩
      rw [publications,self]
      simp
    · rename_i other
      exact .inl ⟨other,active⟩
  · intro p mem
    refine ⟨?_,unspent p mem⟩
    rw [publications]
    exact List.mem_append_left _ mem
  · intro p mem
    rw [publications] at mem
    rcases List.mem_append.mp mem with old | new
    · exact .inl old
    · rw [List.mem_singleton.mp new]
      exact .inr ⟨rfl,now⟩
  · rw [publications,List.map_append,List.nodup_append]
    refine ⟨good.once,by simp,?_⟩
    intro v mem v' new same
    obtain ⟨p,inside,first⟩ := List.mem_map.mp mem
    simp only [List.map_cons,List.map_nil,List.mem_singleton] at new
    exact unspent p inside (first.trans (same.trans new))

theorem PushGood.next (change : PushChange s t) : PushGood t := by
  cases change with
  | kept prepared rows runs publications =>
    exact good.kept drawn clock prepared rows runs publications
  | prepares value unused fresh prepared rows runs publications =>
    exact good.prepares drawn clock unused fresh prepared rows runs publications
  | creates d row unused fresh ready prepared rows runs publications =>
    obtain ⟨deadline,ready⟩ := ready
    have idle : s.pushRuns.get d = none := by
      cases active : s.pushRuns.get d with
      | none => rfl
      | some run => exact absurd (good.devices d run active) unused
    have unspent : ∀ p ∈ s.publications, p.1 ≠ row.credential := by
      intro p mem same
      have gone := (good.spent p mem).2.1
      rw [same,ready] at gone
      cases gone
    exact good.writeIdle drawn clock idle unspent rows prepared
      ⟨fresh,drawn (good.prepared _ deadline ready)⟩
      (fun e old _ here => good.apart _ deadline e old ready here) runs publications
  | renews d row idle known unused fresh prepared rows runs publications =>
    obtain ⟨old,known⟩ := known
    have unspent : ∀ p ∈ s.publications, p.1 ≠ row.credential := by
      intro p mem same
      exact unused (same ▸ (good.spent p mem).1)
    refine good.writeIdle drawn clock idle unspent rows ?_ ⟨drawn (good.rows d old known).1,fresh⟩
      ?_ runs publications
    · intro v e ready
      rw [prepared] at ready
      exact ⟨fun same => unused (same ▸ good.prepared v e ready),ready⟩
    · intro e other _ here same
      exact unused (same ▸ (good.rows e other here).2)
  | publishes d row here unused early prepared rows runs publications =>
    exact good.publishes drawn clock here unused prepared rows runs publications

end

theorem stockClock {frame : Option Frame} {out : Outcome} (change : StockChange s frame out)
    (clock : 0 < unixMilli s.now) : 0 < unixMilli out.shared.now := by
  have still (same : out.shared.now = s.now) : 0 < unixMilli out.shared.now := by rw [same]; exact clock
  cases change with
  | turn x f r ran run shared => rw [shared]; exact (turnSources ran).clock clock
  | born x o fresh unused new shared => rw [shared]; exact clock
  | same same => exact same.clock clock
  | call effect => cases effect <;> exact clock
  | source sourceID stage r ok => exact still (by rw [(sourceOnly ok).same])
  | closed => exact clock
  | pull p e rest =>
    simp only [Server.dropEndedPull]
    split
    · split <;> exact clock
    · exact clock
  | pushes p => exact still (by rw [(dropPushesOnly p p.pushes s).same])

theorem stepPush {s t : State} (ok : step s a = some t) : PushChange s.shared t.shared := by
  obtain ⟨out,ran,same,_⟩ := stepSection ok
  rw [same]
  exact pushChange (sectionStock ran)

theorem pushGoodBoot {s : State} (boot : Boot s) : PushGood s.shared := by
  have noRun (d : String) (run : PushRun) : s.shared.pushRuns.get d ≠ some run := by
    rw [boot.pushRuns]; nofun
  have noneReady (v : String) (e : Nat) : s.shared.prepared.get v ≠ some e := by
    rw [boot.prepared]; nofun
  have unpublished : s.shared.publications = [] := by unfold Server.publications; rw [boot.log]; rfl
  exact {
    clock := boot.clock
    prepared := fun v e ready => absurd ready (noneReady v e)
    rows := boot.devicesDrawn
    alone := boot.credentials
    apart := fun v e _ _ ready => absurd ready (noneReady v e)
    devices := fun d run active => absurd active (noRun d run)
    used := fun d run _ active => absurd active (noRun d run)
    verified := fun d run active => absurd active (noRun d run)
    spent := fun p mem => by rw [unpublished] at mem; cases mem
    once := by rw [unpublished]; exact List.nodup_nil }

theorem pushGoodStep {s t : State} (rooted : Rooted s.shared s.tasks) (good : PushGood s.shared)
    (ok : step s a = some t) : PushGood t.shared := by
  obtain ⟨out,ran,same,_⟩ := stepSection ok
  rw [same]
  have stock := sectionStock ran
  exact good.next (changeDrawn (sectionChange rooted.keyed ran)) (stockClock stock good.clock)
    (pushChange stock)

theorem reachedPush {s : State} (reached : Reached s) : PushGood s.shared := by
  have both : Rooted s.shared s.tasks ∧ PushGood s.shared :=
    reached.invariant (P := fun s => Rooted s.shared s.tasks ∧ PushGood s.shared)
      (fun _ boot => ⟨rootedBoot boot,pushGoodBoot boot⟩)
      fun _ _ _ now ok => ⟨rootedStep now.1 ok,pushGoodStep now.1 now.2 ok⟩
  exact both.2

theorem PushGood.idle (good : PushGood s) (here : s.pushDevices.get d = some row)
    (unused : row.usedAt = 0) : s.pushRuns.get d = none := by
  cases active : s.pushRuns.get d with
  | none => rfl
  | some run => exact absurd unused (good.used d run row active here).2

theorem PushGood.runKept (good : PushGood s) (change : PushChange s t) {run run' : PushRun}
    (active : s.pushRuns.get d = some run) (later : t.pushRuns.get d = some run') : run' = run := by
  have same (before : s.pushRuns.get d = some run') : run' = run :=
    Option.some.inj (before.symm.trans active)
  cases change with
  | kept _ _ runs => exact same (runs d run' later)
  | prepares _ _ _ _ _ runs => rw [runs] at later; exact same later
  | creates _ _ _ _ _ _ _ runs => rw [runs] at later; exact same later
  | renews _ _ _ _ _ _ _ _ runs => rw [runs] at later; exact same later
  | publishes e row here unused _ _ _ runs =>
    rw [runs,Table.getSet] at later
    split at later
    · rename_i self
      rw [self,good.idle here unused] at active
      cases active
    · exact same later

theorem pushCredentialsOnce {s : State} (reached : Reached s) :
    (s.shared.publications.map Prod.fst).Nodup ∧
    (∀ v streamID store t, s.shared.consumeStreamToken v .publish streamID store = .ok t →
      (∀ p ∈ s.shared.publications, p.1 ≠ v) ∧ ∃ d row, s.shared.pushDevices.get d = some row ∧
        row.credential = v ∧ unixMilli s.shared.now < row.expiresAt ∧
        t.publications = s.shared.publications ++ [(v,d,s.shared.now)]) ∧
    (∀ a t, step s a = some t → t.shared.publications = s.shared.publications ∨
      ∃ d row, s.shared.pushDevices.get d = some row ∧ row.usedAt = 0 ∧
        unixMilli s.shared.now < row.expiresAt ∧ s.shared.pushRuns.get d = none ∧
        t.shared.publications = s.shared.publications ++ [(row.credential,d,s.shared.now)] ∧
        t.shared.pushRuns.get d = some ⟨row.credential,s.shared.now⟩) ∧
    (∀ d run row, s.shared.pushRuns.get d = some run → s.shared.pushDevices.get d = some row →
      row.credential = run.streamID ∧ row.usedAt ≠ 0) ∧
    (∀ a t d run run', step s a = some t → s.shared.pushRuns.get d = some run →
      t.shared.pushRuns.get d = some run' → run' = run) := by
  have good := reachedPush reached
  refine ⟨good.once,?_,?_,good.used,?_⟩
  · intro v streamID store t ok
    obtain ⟨d,row,here,same,unused,early,log,_⟩ := publishedSpec ok
    refine ⟨fun p mem known => ?_,d,row,here,same,early,log⟩
    exact (good.spent p mem).2.2 d row here (same.trans known.symm) unused
  · intro a t ok
    cases stepPush ok with
    | kept _ _ _ log => exact .inl log
    | prepares _ _ _ _ _ _ log => exact .inl log
    | creates _ _ _ _ _ _ _ _ log => exact .inl log
    | renews _ _ _ _ _ _ _ _ _ log => exact .inl log
    | publishes d row here unused early _ _ runs log =>
      refine .inr ⟨d,row,here,unused,early,good.idle here unused,log,?_⟩
      rw [runs,Table.getSet,if_pos rfl]
  · intro a t d run run' ok active later
    exact good.runKept (stepPush ok) active later

def presentedTwice : List Action :=
  [.call (.token (.credentialPrepare "v")),.call (.token (.deviceCreate "p" "camera" .rtmp "v" true)),
    .call (.token (.consumeStreamToken "v" .publish "v" true)),
    .call (.token (.consumeStreamToken "v" .publish "v" true))]

theorem presentedTwiceOnce : ∃ s row, Reached s ∧ s.shared.publications = [("v","p",1000000000)] ∧
    s.shared.pushRuns.get "p" = some ⟨"v",1000000000⟩ ∧ s.shared.pushDevices.get "p" = some row ∧
    row.credential = "v" ∧ row.usedAt ≠ 0 := by
  have ends : (Transition.run step firstStart presentedTwice).any (fun s =>
      decide (s.shared.publications = [("v","p",1000000000)] ∧
        s.shared.pushRuns.get "p" = some ⟨"v",1000000000⟩) && (s.shared.pushDevices.get "p").isSome) =
      true := by decide
  obtain ⟨s,reached,ends⟩ := reachedBy ends
  simp only [Bool.and_eq_true,decide_eq_true_eq] at ends
  obtain ⟨row,here⟩ := Option.isSome_iff_exists.mp ends.2
  have used := (pushCredentialsOnce reached).2.2.2.1 "p" _ row ends.1.2 here
  exact ⟨s,row,reached,ends.1.1,ends.1.2,here,used⟩

end MediaServer.Signaling
