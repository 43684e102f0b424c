import Mathlib
import Storyboard.Proofs.Sprite.Text
import Storyboard.Sprite.State

/-!
# The command that decides at a time

What a sprite looks like is looked up in its timelines, where a command stands as often as it was
added.  The text has every line once.  The two agree on which line decides at a time as long as no
line comes back: if a command is added again after another one of its kind with the same earlier
time, then the timeline takes the repetition for the last of them, and the text shows the other one
there.
-/

namespace Storyboard

/-! ## Last greatest and first least items -/

section Extremes

variable {α : Type} {key : α → Int}

theorem lastMaxBy_eq_none_iff {items : List α} : lastMaxBy key items = none ↔ items = [] := by
  cases items with
  | nil => simp [lastMaxBy]
  | cons a rest =>
      unfold lastMaxBy
      cases lastMaxBy key rest with
      | none => simp
      | some b =>
          by_cases hlt : key b < key a
          · simp [hlt]
          · simp [hlt]

theorem lastMaxBy_spec {items : List α} {a : α} (h : lastMaxBy key items = some a) :
    (∀ b ∈ items, key b ≤ key a) ∧ (items.filter fun b => key b = key a).getLast? = some a := by
  induction items generalizing a with
  | nil => cases h
  | cons c rest ih =>
      unfold lastMaxBy at h
      cases hrest : lastMaxBy key rest with
      | none =>
          rw [hrest] at h
          have hnil := lastMaxBy_eq_none_iff.mp hrest
          cases h
          simp [hnil]
      | some b =>
          obtain ⟨hle, hlast⟩ := ih hrest
          rw [hrest] at h
          by_cases hlt : key b < key c
          · simp only [hlt, if_true] at h
            cases h
            have hless : ∀ d ∈ rest, key d < key c := fun d hd => (hle d hd).trans_lt hlt
            have hnone : (rest.filter fun d => key d = key c) = [] := by
              rw [List.filter_eq_nil_iff]
              intro d hd
              simpa using (hless d hd).ne
            constructor
            · intro d hd
              rcases List.mem_cons.mp hd with rfl | hd
              · exact le_rfl
              · exact (hless d hd).le
            · simp [hnone]
          · simp only [hlt, if_false] at h
            cases h
            constructor
            · intro d hd
              rcases List.mem_cons.mp hd with rfl | hd
              · exact not_lt.mp hlt
              · exact hle d hd
            · rw [List.filter_cons]
              split
              · rw [List.getLast?_cons, hlast, Option.getD_some]
              · exact hlast

theorem lastMaxBy_eq_some_iff {items : List α} {a : α} :
    lastMaxBy key items = some a ↔
      (∀ b ∈ items, key b ≤ key a) ∧
        (items.filter fun b => key b = key a).getLast? = some a := by
  constructor
  · exact lastMaxBy_spec
  · rintro ⟨hle, hlast⟩
    have hmem : a ∈ items := List.mem_of_mem_filter (List.mem_of_getLast? hlast)
    cases hfound : lastMaxBy key items with
    | none =>
        rw [lastMaxBy_eq_none_iff.mp hfound] at hmem
        cases hmem
    | some c =>
        obtain ⟨hle', hlast'⟩ := lastMaxBy_spec hfound
        have hmem' : c ∈ items := List.mem_of_mem_filter (List.mem_of_getLast? hlast')
        have hkey : key c = key a := le_antisymm (hle c hmem') (hle' a hmem)
        rw [hkey, hlast] at hlast'
        exact hlast'.symm

theorem lastMaxBy_eq_of_filter_eq {items others : List α}
    (h : ∀ k, (items.filter fun a => key a = k) = others.filter fun a => key a = k) :
    lastMaxBy key items = lastMaxBy key others := by
  have hmem : ∀ a, a ∈ items ↔ a ∈ others :=
    fun a => ⟨mem_of_filter_eq h, mem_of_filter_eq fun k => (h k).symm⟩
  apply Option.ext
  intro a
  simp only [lastMaxBy_eq_some_iff, hmem, h]

theorem mem_of_lastMaxBy {items : List α} {a : α} (h : lastMaxBy key items = some a) : a ∈ items :=
  List.mem_of_mem_filter (List.mem_of_getLast? (lastMaxBy_spec h).2)

theorem mem_of_firstMinBy {items : List α} {a : α} (h : firstMinBy key items = some a) :
    a ∈ items := by
  induction items generalizing a with
  | nil => cases h
  | cons c rest ih =>
      unfold firstMinBy at h
      cases hrest : firstMinBy key rest with
      | none =>
          rw [hrest] at h
          cases h
          exact List.mem_cons_self
      | some b =>
          rw [hrest] at h
          by_cases hlt : key b < key c
          · simp only [hlt, if_true] at h
            cases h
            exact List.mem_cons_of_mem c (ih hrest)
          · simp only [hlt, if_false] at h
            cases h
            exact List.mem_cons_self

section Map

variable {β : Type} {key' : β → Int} {g : β → α}

theorem lastMaxBy_map (hkey : ∀ a b, key (g a) < key (g b) ↔ key' a < key' b) (items : List β) :
    lastMaxBy key (items.map g) = (lastMaxBy key' items).map g := by
  induction items with
  | nil => rfl
  | cons a rest ih =>
      simp only [List.map_cons, lastMaxBy, ih]
      cases lastMaxBy key' rest with
      | none => rfl
      | some b =>
          simp only [Option.map_some, hkey]
          split
          · rfl
          · rfl

theorem firstMinBy_map (hkey : ∀ a b, key (g a) < key (g b) ↔ key' a < key' b) (items : List β) :
    firstMinBy key (items.map g) = (firstMinBy key' items).map g := by
  induction items with
  | nil => rfl
  | cons a rest ih =>
      simp only [List.map_cons, firstMinBy, ih]
      cases firstMinBy key' rest with
      | none => rfl
      | some b =>
          simp only [Option.map_some, hkey]
          split
          · rfl
          · rfl

end Map

variable {R : α → α → Prop} {items others : List α}

theorem lastMaxBy_congr (hkey : ∀ a b, R a b → key a = key b) (h : List.Forall₂ R items others) :
    Option.Rel R (lastMaxBy key items) (lastMaxBy key others) := by
  induction h with
  | nil => exact .none
  | @cons a b rest rest' hab hrest ih =>
      unfold lastMaxBy
      generalize lastMaxBy key rest = found at ih ⊢
      generalize lastMaxBy key rest' = found' at ih ⊢
      cases ih with
      | none => exact .some hab
      | @some c d hcd =>
          simp only [hkey c d hcd, hkey a b hab]
          split
          · exact .some hab
          · exact .some hcd

theorem firstMinBy_congr (hkey : ∀ a b, R a b → key a = key b) (h : List.Forall₂ R items others) :
    Option.Rel R (firstMinBy key items) (firstMinBy key others) := by
  induction h with
  | nil => exact .none
  | @cons a b rest rest' hab hrest ih =>
      unfold firstMinBy
      generalize firstMinBy key rest = found at ih ⊢
      generalize firstMinBy key rest' = found' at ih ⊢
      cases ih with
      | none => exact .some hab
      | @some c d hcd =>
          simp only [hkey c d hcd, hkey a b hab]
          split
          · exact .some hcd
          · exact .some hab

end Extremes

/-! ## Deciding by what is written -/

namespace Command

def IsActiveAt (c : Command) (time : Int) : Prop :=
  c.low ≤ time ∧ time < c.stop

instance (c : Command) (time : Int) : Decidable (c.IsActiveAt time) :=
  inferInstanceAs (Decidable (_ ∧ _))

theorem Alike.isActiveAt_iff {c c' : Command} (h : c.Alike c') (time : Int) :
    c.IsActiveAt time ↔ c'.IsActiveAt time := by
  rw [IsActiveAt, IsActiveAt, h.low, h.stop]

end Command

namespace Sprite

/-- The command that decides at a time among the written commands of a kind. -/
def deciding (time : Int) (events : List Cue) : Option Cue :=
  match events.filter fun cue => cue.command.IsActiveAt time with
  | [] =>
      match events.filter fun cue => cue.command.high ≤ time with
      | [] => firstMinBy (·.command.low) events
      | finished => lastMaxBy (·.command.high) finished
  | active => lastMaxBy (·.command.low) active

theorem deciding_of_ne_nil {time : Int} {events : List Cue}
    (h : events.filter (fun cue => cue.command.IsActiveAt time) ≠ []) :
    deciding time events =
      lastMaxBy (·.command.low) (events.filter fun cue => cue.command.IsActiveAt time) := by
  unfold deciding
  split
  next hnil => exact absurd hnil h
  next => rfl

theorem mem_of_deciding {time : Int} {events : List Cue} {cue : Cue}
    (h : deciding time events = some cue) : cue ∈ events := by
  unfold deciding at h
  split at h
  · split at h
    · exact mem_of_firstMinBy h
    · exact List.mem_of_mem_filter (mem_of_lastMaxBy h)
  · exact List.mem_of_mem_filter (mem_of_lastMaxBy h)

/-! ## Commands with the same lines -/

def SameLine (depths depths' : Depths) (cue cue' : Cue) : Prop :=
  cue.line depths = cue'.line depths'

section SameLine

variable {depths depths' : Depths} {events events' : List Cue}

theorem SameLine.alike {cue cue' : Cue} (h : SameLine depths depths' cue cue') :
    cue.command.Alike cue'.command :=
  Cue.alike_of_line_eq h

theorem forall₂_sameLine (h : events.map (Cue.line depths) = events'.map (Cue.line depths')) :
    List.Forall₂ (SameLine depths depths') events events' := by
  have hmaps : List.Forall₂ (· = ·) (events.map (Cue.line depths))
      (events'.map (Cue.line depths')) := by
    rw [List.forall₂_eq_eq_eq]
    exact h
  rw [List.forall₂_map_left_iff, List.forall₂_map_right_iff] at hmaps
  exact hmaps

theorem map_line_eq_iff {found found' : Option Cue} :
    found.map (Cue.line depths) = found'.map (Cue.line depths') ↔
      Option.Rel (SameLine depths depths') found found' := by
  constructor
  · intro h
    cases found with
    | none =>
        cases found' with
        | none => exact .none
        | some cue' => cases h
    | some cue =>
        cases found' with
        | none => cases h
        | some cue' => exact .some (Option.some.inj h)
  · intro h
    cases h with
    | none => rfl
    | some hline => exact congrArg some hline

theorem forall₂_filter_isActiveAt (h : List.Forall₂ (SameLine depths depths') events events')
    (time : Int) :
    List.Forall₂ (SameLine depths depths')
      (events.filter fun cue => cue.command.IsActiveAt time)
      (events'.filter fun cue => cue.command.IsActiveAt time) := by
  apply List.rel_filter _ h
  intro cue cue' hline
  simpa using hline.alike.isActiveAt_iff time

theorem forall₂_filter_high (h : List.Forall₂ (SameLine depths depths') events events')
    (time : Int) :
    List.Forall₂ (SameLine depths depths') (events.filter fun cue => cue.command.high ≤ time)
      (events'.filter fun cue => cue.command.high ≤ time) := by
  apply List.rel_filter _ h
  intro cue cue' hline
  simp only [hline.alike.high]

theorem rel_deciding (h : List.Forall₂ (SameLine depths depths') events events') (time : Int) :
    Option.Rel (SameLine depths depths') (deciding time events) (deciding time events') := by
  have hlow : ∀ cue cue', SameLine depths depths' cue cue' → cue.command.low = cue'.command.low :=
    fun _ _ hline => hline.alike.low
  have hhigh : ∀ cue cue', SameLine depths depths' cue cue' →
      cue.command.high = cue'.command.high := fun _ _ hline => hline.alike.high
  have hactive := forall₂_filter_isActiveAt h time
  have hfinished := forall₂_filter_high h time
  unfold deciding
  generalize (events.filter fun cue => cue.command.IsActiveAt time) = active at hactive ⊢
  generalize (events'.filter fun cue => cue.command.IsActiveAt time) = active' at hactive ⊢
  cases hactive with
  | nil =>
      generalize (events.filter fun cue => cue.command.high ≤ time) = finished at hfinished ⊢
      generalize (events'.filter fun cue => cue.command.high ≤ time) = finished' at hfinished ⊢
      cases hfinished with
      | nil => exact firstMinBy_congr hlow h
      | cons hfirst hrest => exact lastMaxBy_congr hhigh (.cons hfirst hrest)
  | cons hfirst hrest => exact lastMaxBy_congr hlow (.cons hfirst hrest)

end SameLine

/-! ## Timelines and texts -/

/-- No line comes back after another one of its kind with the same earlier time. -/
def LinesStay (depths : Depths) (added : List Cue) : Prop :=
  ∀ a b c, [a, b, c].Sublist added → b.command.kind = a.command.kind →
    b.command.low = a.command.low → c.line depths = a.line depths → b.line depths = a.line depths

/-- The commands of a kind that are active at a time, as often as they were added. -/
def activeCues (added : List Cue) (kind : Kind) (time : Int) : List Cue :=
  (added.filter fun cue => cue.command.kind = kind).filter fun cue => cue.command.IsActiveAt time

theorem Records.get_timeline {s : Sprite} {added : List Cue} (h : s.Records added) (kind : Kind)
    (time : Int) : (s.timeline kind).get time = activeCues added kind time := by
  rw [h kind, timelineOf, IntervalMap.get_ofPushes, accepted_map_toPush, IntervalMap.activeAt,
    List.filter_map, List.map_map, value_comp_toPush, List.map_id]
  rfl

theorem LinesStay.noReturn {depths : Depths} {added : List Cue} (h : LinesStay depths added)
    (kind : Kind) (time low : Int) :
    NoReturn (Cue.line depths)
      ((activeCues added kind time).filter fun cue => cue.command.low = low) := by
  intro a b c habc hac
  have hprops : ∀ cue ∈ [a, b, c], cue.command.kind = kind ∧ cue.command.low = low := by
    intro cue hcue
    obtain ⟨hactive, hlow⟩ := List.mem_filter.mp (habc.subset hcue)
    have hkind := (List.mem_filter.mp (List.mem_filter.mp hactive).1).2
    exact ⟨of_decide_eq_true hkind, of_decide_eq_true hlow⟩
  obtain ⟨hkind, hlow⟩ := hprops a (by simp)
  obtain ⟨hkind', hlow'⟩ := hprops b (by simp)
  have hsub : [a, b, c].Sublist added :=
    ((habc.trans List.filter_sublist).trans List.filter_sublist).trans List.filter_sublist
  exact h a b c hsub (hkind'.trans hkind.symm) (hlow'.trans hlow.symm) hac.symm

section Active

variable {s : Sprite} {added : List Cue} {depths : Depths} {kind : Kind} {time : Int}

theorem Records.filter_events (h : s.Records added) :
    ((s.events depths kind).filter fun cue => cue.command.IsActiveAt time) =
      firstsBy (Cue.line depths)
        ((inOrder kind added).filter fun cue => cue.command.IsActiveAt time) := by
  have hline : ∀ a b : Cue, a.line depths = b.line depths →
      decide (a.command.IsActiveAt time) = decide (b.command.IsActiveAt time) :=
    fun _ _ hab => decide_eq_decide.mpr ((Cue.alike_of_line_eq hab).isActiveAt_iff time)
  rw [h.events_eq, firstsBy_filter hline]

theorem mem_filter_inOrder {cue : Cue} :
    cue ∈ (inOrder kind added).filter (fun cue => cue.command.IsActiveAt time) ↔
      cue ∈ activeCues added kind time := by
  rw [activeCues, List.mem_filter, List.mem_filter, inOrder, mem_sortedBy]

theorem Records.mem_activeCues (h : s.Records added) {cue : Cue}
    (hcue : cue ∈ (s.events depths kind).filter fun cue => cue.command.IsActiveAt time) :
    cue ∈ activeCues added kind time := by
  rw [h.filter_events] at hcue
  exact mem_filter_inOrder.mp (mem_of_mem_firstsBy hcue)

/-- A kind has an active command exactly if one of the written commands is active. -/
theorem Records.activeCues_eq_nil_iff (h : s.Records added) :
    activeCues added kind time = [] ↔
      ((s.events depths kind).filter fun cue => cue.command.IsActiveAt time) = [] := by
  constructor
  · intro hnil
    apply List.eq_nil_iff_forall_not_mem.mpr
    intro cue hcue
    have hactive := h.mem_activeCues hcue
    rw [hnil] at hactive
    cases hactive
  · intro hnil
    apply List.eq_nil_iff_forall_not_mem.mpr
    intro cue hcue
    rw [h.filter_events] at hnil
    obtain ⟨other, hother, -⟩ := exists_mem_firstsBy (Cue.line depths) (mem_filter_inOrder.mpr hcue)
    rw [hnil] at hother
    cases hother

theorem Records.filter_low (h : s.Records added) (low : Int) :
    (((s.events depths kind).filter fun cue => cue.command.IsActiveAt time).filter
        fun cue => cue.command.low = low) =
      firstsBy (Cue.line depths)
        ((activeCues added kind time).filter fun cue => cue.command.low = low) := by
  have hline : ∀ a b : Cue, a.line depths = b.line depths →
      decide (a.command.low = low) = decide (b.command.low = low) :=
    fun _ _ hab => by rw [(Cue.alike_of_line_eq hab).low]
  rw [h.filter_events, ← firstsBy_filter hline, List.filter_comm, inOrder, filter_sortedBy,
    List.filter_comm, activeCues]

theorem Records.governing_of_eq_nil (h : s.Records added) (hnil : activeCues added kind time = []) :
    s.governing depths kind time = deciding time (s.events depths kind) := by
  have hwritten : ((s.events depths kind).filter fun cue => cue.command.IsActiveAt time) = [] :=
    h.activeCues_eq_nil_iff.mp hnil
  have hactive : (s.timeline kind).get time = [] := (h.get_timeline kind time).trans hnil
  unfold governing deciding
  generalize ((s.events depths kind).filter fun cue => cue.command.IsActiveAt time) = written
    at hwritten ⊢
  generalize (s.timeline kind).get time = active at hactive ⊢
  subst hwritten hactive
  rfl

theorem Records.governing_of_ne_nil (h : s.Records added)
    (hne : activeCues added kind time ≠ []) :
    s.governing depths kind time = lastMaxBy (·.command.low) (activeCues added kind time) := by
  unfold governing
  rw [h.get_timeline]
  split
  next hnil => exact absurd hnil hne
  next => rfl

theorem Records.line_governing (h : s.Records added) (hstay : LinesStay depths added) (kind : Kind)
    (time : Int) :
    (s.governing depths kind time).map (Cue.line depths) =
      (deciding time (s.events depths kind)).map (Cue.line depths) := by
  by_cases hnil : activeCues added kind time = []
  · rw [h.governing_of_eq_nil hnil]
  · have hne : (s.events depths kind).filter (fun cue => cue.command.IsActiveAt time) ≠ [] :=
      fun hwritten => hnil (h.activeCues_eq_nil_iff.mpr hwritten)
    rw [h.governing_of_ne_nil hnil, deciding_of_ne_nil hne]
    cases hlatest : lastMaxBy (·.command.low) (activeCues added kind time) with
    | none => exact absurd (lastMaxBy_eq_none_iff.mp hlatest) hnil
    | some cue =>
        -- The timeline takes the last addition of the latest start.  The text has first appearances
        -- instead, and the last of these has the same line, since no line comes back.
        obtain ⟨hle, hlast⟩ := lastMaxBy_spec hlatest
        have hlines := (hstay.noReturn kind time cue.command.low).getLast?_firstsBy
        rw [← h.filter_low, hlast, Option.map_some, Option.map_eq_some_iff] at hlines
        obtain ⟨written, hwritten, hline⟩ := hlines
        have hlow := (Cue.alike_of_line_eq hline).low
        have hfound : lastMaxBy (·.command.low)
            ((s.events depths kind).filter fun cue => cue.command.IsActiveAt time) =
              some written := by
          rw [lastMaxBy_eq_some_iff, hlow]
          exact ⟨fun other hother => hle other (h.mem_activeCues hother), hwritten⟩
        rw [hfound]
        exact congrArg some hline.symm

theorem Records.mem_of_mem_events (h : s.Records added) {cue : Cue}
    (hcue : cue ∈ s.events depths kind) : cue ∈ added := by
  rw [h.events_eq] at hcue
  exact (mem_inOrder.mp (mem_of_mem_firstsBy hcue)).1

theorem Records.kind_of_mem_events (h : s.Records added) {cue : Cue}
    (hcue : cue ∈ s.events depths kind) : cue.command.kind = kind := by
  rw [h.events_eq] at hcue
  exact (mem_inOrder.mp (mem_of_mem_firstsBy hcue)).2

theorem Records.pairwise_events (h : s.Records added) :
    (s.events depths kind).Pairwise fun a b => a.command.low ≤ b.command.low := by
  rw [h.events_eq]
  exact (pairwise_sortedBy _ _).sublist (firstsBy_sublist _ _)

theorem Records.mem_of_governing (h : s.Records added) {cue : Cue}
    (hcue : s.governing depths kind time = some cue) : cue ∈ added := by
  by_cases hnil : activeCues added kind time = []
  · rw [h.governing_of_eq_nil hnil] at hcue
    exact h.mem_of_mem_events (mem_of_deciding hcue)
  · rw [h.governing_of_ne_nil hnil] at hcue
    exact List.mem_of_mem_filter (List.mem_of_mem_filter (mem_of_lastMaxBy hcue))

end Active

end Sprite
end Storyboard
