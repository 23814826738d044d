import MediaServer.MediaTypes
import MediaServer.Handler

/-! The calls a receiver makes on its media_stream and on the stream registry. Every receiver
sets the tracks once and adds the stream in the same call; what follows from that over a whole
run is said here once for all of them. -/
namespace MediaServer
open Handler

inductive StreamEffect where
  | setTracks (tracks : List MediaTrack)
  | add (added : Bool)
  | publish (frame : MediaFrame)
  deriving DecidableEq, Repr

def StreamEffect.registers : StreamEffect → Bool
  | .setTracks _ | .add _ => true
  | .publish _ => false

def StreamEffect.frame : StreamEffect → Option MediaFrame
  | .publish frame => some frame
  | _ => none

namespace StreamCalls

variable {σ ε : Type}

def registrations (turn : Turn σ StreamEffect) : List StreamEffect :=
  turn.effects.filter StreamEffect.registers

def published (turn : Turn σ StreamEffect) : List MediaFrame :=
  turn.effects.filterMap StreamEffect.frame

theorem registersOrders {turn : Turn σ StreamEffect} {tracks : List MediaTrack}
    (orders : .setTracks tracks ∈ turn.effects) : registrations turn ≠ [] :=
  List.ne_nil_of_mem (List.mem_filter.mpr ⟨orders,rfl⟩)

/- A run in which the tracks are set and the stream is added once, in one call, with no frame
ahead of it and with tracks that stay. -/
structure RegisteredOnce (tracks : σ → List MediaTrack) (run : List (Call σ ε StreamEffect)) :
    Prop where
  once : ∀ before c after, run = before ++ c :: after → registrations c.turn ≠ [] →
    (∃ fixed added frames, c.turn.effects = .setTracks fixed :: .add added :: frames ∧
      frames.filter StreamEffect.registers = []) ∧
      ∀ d ∈ before ++ after, registrations d.turn = []
  quiet : ∀ before c after, run = before ++ c :: after →
    (∀ d ∈ before ++ [c], registrations d.turn = []) → published c.turn = []
  constant : ∀ before c after fixed, run = before ++ c :: after →
    .setTracks fixed ∈ c.turn.effects → tracks c.turn.state = fixed ∧
      ∀ d ∈ after, tracks d.state = fixed ∧ tracks d.turn.state = fixed

inductive Opening (tracks : σ → List MediaTrack) : Turn σ StreamEffect → Prop where
  | quiet {t ok} (unfixed : tracks t = []) : Opening tracks ⟨t,[],ok⟩
  | registered {t frames ok} (fixes : tracks t ≠ [])
      (plain : frames.filter StreamEffect.registers = []) :
      Opening tracks ⟨t,.setTracks (tracks t) :: .add true :: frames,ok⟩
  | duplicate {t} (fixes : tracks t ≠ []) :
      Opening tracks ⟨t,[.setTracks (tracks t),.add false],false⟩

structure Discipline (tracks : σ → List MediaTrack) (Good : σ → Prop)
    (handle : σ → ε → Turn σ StreamEffect) : Prop where
  kept : ∀ s e, Good s → (handle s e).ok = true → Good (handle s e).state
  opening : ∀ s e, Good s → tracks s = [] → Opening tracks (handle s e)
  fixed : ∀ s e, Good s → tracks s ≠ [] →
    tracks (handle s e).state = tracks s ∧ registrations (handle s e) = []

section
variable {tracks : σ → List MediaTrack} {Good : σ → Prop} {handle : σ → ε → Turn σ StreamEffect}

structure Past (tracks : σ → List MediaTrack) (Good : σ → Prop)
    (past : List (Call σ ε StreamEffect)) (s : σ) : Prop where
  good : Good s
  quiet : tracks s = [] → ∀ d ∈ past, d.turn.effects = []
  fixed : tracks s ≠ [] → ∃ d ∈ past, registrations d.turn ≠ []

variable {s : σ} {before after : List (Call σ ε StreamEffect)} {c : Call σ ε StreamEffect}

theorem Discipline.pastStep (discipline : Discipline tracks Good handle)
    {past : List (Call σ ε StreamEffect)} {e : ε} (before : Past tracks Good past s)
    (ok : (handle s e).ok = true) :
    Past tracks Good (past ++ [⟨s,e,handle s e⟩]) (handle s e).state := by
  refine ⟨discipline.kept s e before.good ok,?_,?_⟩
  · intro still d member
    by_cases unfixed : tracks s = []
    · rcases List.mem_append.mp member with earlier | last
      · exact before.quiet unfixed d earlier
      · cases List.mem_singleton.mp last
        have call := discipline.opening s e before.good unfixed
        dsimp only
        generalize handle s e = turn at call still ok ⊢
        cases call with
        | quiet => rfl
        | registered fixes => exact absurd still fixes
        | duplicate => contradiction
    · exact absurd ((discipline.fixed s e before.good unfixed).1.symm.trans still) unfixed
  · intro fixed
    by_cases unfixed : tracks s = []
    · refine ⟨_,List.mem_append_right _ List.mem_cons_self,?_⟩
      have call := discipline.opening s e before.good unfixed
      dsimp only
      generalize handle s e = turn at call fixed ⊢
      cases call with
      | quiet still => exact absurd still fixed
      | registered => simp [registrations,StreamEffect.registers]
      | duplicate => simp [registrations,StreamEffect.registers]
    · obtain ⟨d,member,orders⟩ := before.fixed unfixed
      exact ⟨d,List.mem_append_left _ member,orders⟩

structure Placed (tracks : σ → List MediaTrack) (Good : σ → Prop)
    (handle : σ → ε → Turn σ StreamEffect) (before : List (Call σ ε StreamEffect))
    (c : Call σ ε StreamEffect) (after : List (Call σ ε StreamEffect)) : Prop where
  past : Past tracks Good before c.state
  turn : c.turn = handle c.state c.event
  ends : c.turn.ok = false → after = []
  onward : c.turn.ok = true → tracks c.turn.state ≠ [] → ∀ d ∈ after,
    Good d.state ∧ tracks d.state = tracks c.turn.state ∧ d.turn = handle d.state d.event

theorem Discipline.placed (discipline : Discipline tracks Good handle) (first : Good s)
    (unfixed : tracks s = []) {events : List ε} (cut : calls handle s events = before ++ c :: after) :
    Placed tracks Good handle before c after := by
  obtain ⟨past,turn,rest,later⟩ := callsCut (P := Past tracks Good) []
    ⟨first,by simp,fun fixed => absurd unfixed fixed⟩ (fun past s e => discipline.pastStep) cut
  refine ⟨past,turn,fun failed => by simpa [failed] using later,?_⟩
  intro ok fixed d member
  rw [if_pos ok] at later
  subst later
  have next : Good c.turn.state := by
    rw [turn] at ok ⊢
    exact discipline.kept _ _ past.good ok
  have held := callsInvariant
    (P := fun s => Good s ∧ tracks s = tracks c.turn.state) ⟨next,rfl⟩
    (fun s e now ok => by
      have same := (discipline.fixed s e now.1 (by rw [now.2]; exact fixed)).1
      exact ⟨discipline.kept s e now.1 ok,same.trans now.2⟩) d member
  exact ⟨held.1.1,held.1.2,held.2⟩

theorem Placed.unfixed (placed : Placed tracks Good handle before c after)
    (discipline : Discipline tracks Good handle) (orders : registrations c.turn ≠ []) :
    tracks c.state = [] := by
  by_contra fixed
  have plain := (discipline.fixed c.state c.event placed.past.good fixed).2
  rw [← placed.turn] at plain
  exact orders plain

structure Registering (tracks : σ → List MediaTrack) (Good : σ → Prop)
    (handle : σ → ε → Turn σ StreamEffect) (before : List (Call σ ε StreamEffect))
    (c : Call σ ε StreamEffect) (after : List (Call σ ε StreamEffect)) : Prop where
  unfixed : tracks c.state = []
  fixes : tracks c.turn.state ≠ []
  orders : ∃ added frames,
    c.turn.effects = .setTracks (tracks c.turn.state) :: .add added :: frames ∧
      frames.filter StreamEffect.registers = []
  quiet : ∀ d ∈ before, d.turn.effects = []
  onward : ∀ d ∈ after,
    Good d.state ∧ tracks d.state = tracks c.turn.state ∧ d.turn = handle d.state d.event

theorem Placed.registering (placed : Placed tracks Good handle before c after)
    (discipline : Discipline tracks Good handle) (orders : registrations c.turn ≠ []) :
    Registering tracks Good handle before c after := by
  have unfixed := placed.unfixed discipline orders
  have call := discipline.opening c.state c.event placed.past.good unfixed
  rw [← placed.turn] at call
  obtain ⟨s,e,turn⟩ := c
  have onward : tracks turn.state ≠ [] → ∀ d ∈ after, Good d.state ∧
      tracks d.state = tracks turn.state ∧ d.turn = handle d.state d.event := by
    intro fixes d member
    cases ok : turn.ok with
    | false =>
      rw [placed.ends ok] at member
      contradiction
    | true => exact placed.onward ok fixes d member
  cases call with
  | quiet => exact absurd rfl orders
  | registered fixes plain =>
    exact ⟨unfixed,fixes,⟨true,_,rfl,plain⟩,placed.past.quiet unfixed,onward fixes⟩
  | duplicate fixes =>
    exact ⟨unfixed,fixes,⟨false,[],rfl,rfl⟩,placed.past.quiet unfixed,onward fixes⟩

theorem Registering.same (registering : Registering tracks Good handle before c after)
    {fixed : List MediaTrack} (orders : .setTracks fixed ∈ c.turn.effects) :
    tracks c.turn.state = fixed := by
  obtain ⟨added,frames,effects,plain⟩ := registering.orders
  rw [effects] at orders
  rcases List.mem_cons.mp orders with same | later
  · exact (StreamEffect.setTracks.inj same).symm
  · rcases List.mem_cons.mp later with other | frame
    · contradiction
    · have found : .setTracks fixed ∈ frames.filter StreamEffect.registers :=
        List.mem_filter.mpr ⟨frame,rfl⟩
      rw [plain] at found
      contradiction

theorem Discipline.registeredOnce (discipline : Discipline tracks Good handle) (first : Good s)
    (unfixed : tracks s = []) (events : List ε) :
    RegisteredOnce tracks (calls handle s events) where
  once := by
    intro before c after cut orders
    have registering := (discipline.placed first unfixed cut).registering discipline orders
    obtain ⟨added,frames,effects,plain⟩ := registering.orders
    refine ⟨⟨_,added,frames,effects,plain⟩,?_⟩
    intro d member
    rcases List.mem_append.mp member with earlier | later
    · rw [registrations,registering.quiet d earlier]
      rfl
    · obtain ⟨good,same,turn⟩ := registering.onward d later
      rw [turn]
      exact (discipline.fixed _ _ good (by rw [same]; exact registering.fixes)).2
  quiet := by
    intro before c after cut none_
    have placed := discipline.placed first unfixed cut
    by_cases still : tracks c.state = []
    · have own := none_ c (by simp)
      have call := discipline.opening c.state c.event placed.past.good still
      rw [← placed.turn] at call
      obtain ⟨s,e,turn⟩ := c
      cases call with
      | quiet => rfl
      | registered => simp [registrations,StreamEffect.registers] at own
      | duplicate => rfl
    · obtain ⟨d,member,orders⟩ := placed.past.fixed still
      exact absurd (none_ d (List.mem_append_left _ member)) orders
  constant := by
    intro before c after fixed cut orders
    have placed := discipline.placed first unfixed cut
    have registering := placed.registering discipline (registersOrders orders)
    cases registering.same orders
    refine ⟨rfl,?_⟩
    intro d member
    obtain ⟨good,same,turn⟩ := registering.onward d member
    rw [turn]
    exact ⟨same,(discipline.fixed _ _ good (by rw [same]; exact registering.fixes)).1.trans same⟩

end
end StreamCalls
end MediaServer
