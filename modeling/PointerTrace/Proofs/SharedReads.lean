import PointerTrace.Proofs.LiveBorrow

/- What a shared read-only pointer observes. Deriving a pointer accesses no memory, and a read only
   disables: a unique borrow that is taken after the shared pointer may be written through, and once
   a read through an older ancestor of it has disabled it, the shared pointer may be read again and
   observes the write (`not_forall_reads_unchanged`). That is the only way (`reads_of_shared`): every
   write between the push of a read-only frame and a granted read through its tag goes through a
   younger tag, and a read through an older ancestor of that tag comes between the write and the
   read. Without such reads the value is still the one at the push. Until that read, the younger
   borrow or an ancestor of it is live above the read-only frame (`LiveAbove`), which refuses every
   read through it. -/
namespace PointerTrace

namespace Allocation

/-- The frame of the tag is on the stack. -/
def Present (a : Allocation) (t : Tag) : Prop := ∃ f ∈ a.stack, f.tag = t

/-- Above a tag there is a live unique borrow, a given tag itself or an ancestor of it. -/
def LiveAbove (a : Allocation) (t w : Tag) : Prop :=
  ∃ u, a.Live u ∧ t.serial < u.serial ∧ (w = u ∨ a.Descends w u)

namespace Step

variable {a a' : Allocation} {ev : Event} {t w : Tag} {access : Access}

theorem present_before (h : a.Step ev a') (ha : a.Valid) (ht : t ∈ a.tags)
    (present : a'.Present t) : a.Present t := by
  obtain ⟨g, hg, rfl⟩ := present
  obtain ⟨f, hf, same_tag, -⟩ := h.origin ha hg ht
  exact ⟨f, hf, same_tag.symm⟩

/-- A write that leaves a read-only frame on the stack goes through a younger tag, which stays
    live. -/
theorem write_above (h : a.Step (.access w .write) a') (ha : a.Valid)
    (plain : a.interiorMutable = false) (pushed : a.PushedAs t .sharedReadOnly) (stays : a'.Present t) :
    t.serial < w.serial ∧ a'.LiveAbove t w := by
  have live : a.Live w ∧ a'.Live w := (h.accessor ha plain).resolve_right nofun
  have younger : t.serial < w.serial := by
    rcases Int.lt_trichotomy t.serial w.serial with younger | same | older
    · exact younger
    · exact absurd live.1 (Tag.eq_of_serial same ▸ pushed.not_live)
    · obtain ⟨g, hg, rfl⟩ := stays
      have readOnly := (h.pushedAs ha pushed).readOnly hg rfl
      exact absurd readOnly (h.not_readOnly_of_write ha hg older)
  exact ⟨younger, w, live.2, younger, .inl rfl⟩

/-- A live borrow above a read-only frame is only lost with the frame, to another one that was
    derived from the same ancestor, or to a read through an older ancestor. -/
theorem liveAbove (h : a.Step ev a') (ha : a.Valid) (plain : a.interiorMutable = false)
    (pushed : a.PushedAs t .sharedReadOnly) (hw : w ∈ a.tags) (above : a.LiveAbove t w)
    (stays : a'.Present t) : a'.LiveAbove t w ∨
      ∃ x, ev = .access x .read ∧ x.serial < t.serial ∧ a.Descends w x := by
  obtain ⟨u, live, younger, lineal⟩ := above
  rcases h.live_lost ha live with kept | ⟨x, access, rfl, descends⟩
  · exact .inl ⟨u, kept, younger, lineal.imp_right (h.descends_iff ha hw).mpr⟩
  · have ancestor : a.Descends w x := by
      rcases lineal with rfl | further
      · exact descends
      · exact further.trans descends
    -- an accessing ancestor above the frame takes the place of the borrow
    obtain ⟨live_x, kept⟩ := h.live_ancestor ha plain live descends
    rcases Int.lt_trichotomy t.serial x.serial with above_x | same | older
    · exact .inl ⟨x, kept, above_x, .inr ((h.descends_iff ha hw).mpr ancestor)⟩
    · exact absurd live_x (Tag.eq_of_serial same ▸ pushed.not_live)
    · cases access with
      | read => exact .inr ⟨x, rfl, older, ancestor⟩
      | write =>
        -- a write through an older tag pops the read-only frame
        obtain ⟨g, hg, rfl⟩ := stays
        have readOnly := (h.pushedAs ha pushed).readOnly hg rfl
        exact absurd readOnly (h.not_readOnly_of_write ha hg older)

/-- No access is granted through a read-only frame below a live borrow. -/
theorem not_liveAbove (h : a.Step (.access t access) a') (ha : a.Valid)
    (pushed : a.PushedAs t .sharedReadOnly) : ¬ a.LiveAbove t w := by
  rintro ⟨u, ⟨g, hg, rfl, unique⟩, younger, -⟩
  obtain ⟨⟨f, hf, rfl, -⟩, unopposed⟩ := h.accessed ha
  have readOnly := ha.readOnly_of_descends hg hf (unopposed g hg younger unique)
    (pushed.readOnly hf rfl)
  rw [unique] at readOnly
  cases readOnly

end Step

end Allocation

namespace Run

variable {r : Run}

/-- The value that the operation at an index observes, when it is a read that is carried out. -/
def observed? (r : Run) (n : Nat) : Option Int :=
  (r.state? (n + 1)).bind fun m => (m.reads.getLast?.filter (·.index = n)).map Observation.value

/-- A read observes the value of its allocation. -/
theorem Performs.observed {n : Nat} {p : Pointer} {a : Allocation} (h : r.Performs n .read p)
    (found : r.allocation? n p.target = some a) : r.observed? n = some a.value := by
  obtain ⟨m, op, after, here, next, change, accesses⟩ := h.change
  obtain ⟨m₂, here₂, placed⟩ := allocation?_eq_some.mp found
  rw [here, Option.some.injEq] at here₂
  subst here₂
  obtain ⟨action, location⟩ := op
  cases change with
  | declare => exact absurd accesses (Machine.not_accesses rfl)
  | derive derives => exact absurd accesses (Machine.not_accesses derives.access)
  | untagged derives => exact absurd accesses (Machine.not_accesses derives.access)
  | toInteger => exact absurd accesses (Machine.not_accesses rfl)
  | write writes => cases (accesses.eq writes.accesses).1
  | @read source _ q b t grant resolved placed' =>
    obtain ⟨-, rfl⟩ := accesses.eq ⟨source, rfl, resolved⟩
    rw [placed, Option.some.injEq] at placed'
    subst placed'
    simp [observed?, next, Machine.advance, (reached here).pc]

theorem present_earlier {i n : Nat} {id : AllocationId} {a b : Allocation} {t : Tag}
    (start : r.allocation? i id = some a) (ht : t ∈ a.tags) (le : i ≤ n)
    (found : r.allocation? n id = some b) (present : b.Present t) : a.Present t := by
  refine carries_back (P := fun c => t ∈ c.tags) (Q := fun c => c.Present t) start ht le found
    present ?_
  intro j ev c c' moved ht
  exact ⟨moved.step.mem_tags ht, moved.step.present_before moved.valid ht⟩

/-- A write before a granted read through a read-only frame goes through a younger tag, and a read
    through an older ancestor of that tag comes between the two. -/
theorem read_between {i j k : Nat} {id : AllocationId} {f : Frame} {a : Allocation} {w : Tag}
    (pushed : r.Pushes i id f) (readOnly : f.permission = .sharedReadOnly)
    (reads : r.Performs k .read ⟨id, some f.tag⟩) (later : i < j) (earlier : j < k)
    (found : r.allocation? j id = some a) (plain : a.interiorMutable = false)
    (writes : r.Performs j .write ⟨id, some w⟩) :
    f.tag.serial < w.serial ∧ ∃ l x c, j < l ∧ l < k ∧ r.Performs l .read ⟨id, some x⟩ ∧
      x.serial < f.tag.serial ∧ r.allocation? l id = some c ∧ c.Descends w x := by
  obtain ⟨_, b, b', tag_eq, last⟩ := reads.moves
  cases tag_eq
  obtain ⟨_, a₁, a', tag_eq, moved⟩ := writes.moves
  cases tag_eq
  have same := moved.before
  rw [found, Option.some.injEq] at same
  subst same
  have held : ∀ n c, i < n → r.allocation? n id = some c → c.PushedAs f.tag .sharedReadOnly :=
    fun n c later found => readOnly ▸ pushed.pushedAs later found
  -- the frame is on the stack when it is read, so it was all along
  have stays : ∀ n c, i < n → n ≤ k → r.allocation? n id = some c → c.Present f.tag := by
    intro n c later earlier found
    obtain ⟨⟨g, hg, tag_eq, -⟩, -⟩ := last.step.accessed last.valid
    exact present_earlier found (held n c later found).mem earlier last.before ⟨g, hg, tag_eq⟩
  obtain ⟨younger, above⟩ := moved.step.write_above moved.valid plain (held j a later found)
    (stays (j + 1) a' (by omega) earlier moved.after)
  refine ⟨younger, ?_⟩
  -- without such a read the live borrow would still stand above the frame at the last read
  by_contra none
  have kept : b.interiorMutable = false ∧ w ∈ b.tags ∧ b.LiveAbove f.tag w := by
    have hw : w ∈ a'.tags := by
      obtain ⟨⟨g, hg, rfl, -⟩, -⟩ := moved.step.accessed moved.valid
      exact moved.step.mem_tags (moved.valid.tag_mem hg)
    refine carries
      (P := fun c => c.interiorMutable = false ∧ w ∈ c.tags ∧ c.LiveAbove f.tag w) moved.after
      ⟨moved.step.interiorMutable_eq.trans plain, hw, above⟩ earlier last.before ?_
    rintro l ev c c' hl hk between ⟨plain, hw, above⟩
    refine ⟨between.step.interiorMutable_eq.trans plain, between.step.mem_tags hw, ?_⟩
    have present := stays (l + 1) c' (by omega) hk between.after
    refine (between.step.liveAbove between.valid plain (held l c (by omega) between.before) hw
      above present).resolve_right ?_
    rintro ⟨x, rfl, older, descends⟩
    exact none ⟨l, x, c, hl, hk, (between.shows _ _).mp rfl, older, between.before, descends⟩
  exact last.step.not_liveAbove last.valid (held k b (by omega) last.before) kept.2.2

/-- Where nothing is written, the value stays. -/
theorem value_later {i n : Nat} {id : AllocationId} {a b : Allocation}
    (start : r.allocation? i id = some a) (le : i ≤ n) (found : r.allocation? n id = some b)
    (unwritten : ∀ j w, i ≤ j → j < n → ¬ r.Performs j .write ⟨id, some w⟩) :
    b.value = a.value := by
  refine carries (P := fun c => c.value = a.value) start rfl le found ?_
  intro j ev c c' hj hn moved same
  rcases moved.step.value_eq with kept | ⟨w, rfl⟩
  · exact kept.trans same
  · exact absurd ((moved.shows _ _).mp rfl) (unwritten j w hj hn)

/-- A shared pointer, a unique borrow that is written through, a read of the variable, and a read
    through the shared pointer. -/
def overlapping : Run := ofActions [.declare "x" 0 true false, .borrow "x" .shared "r",
  .borrow "x" .unique "m", .write "m" 5, .read "x" (some "v"), .read "r" (some "w")]

/-- A write between may be observed. -/
theorem not_forall_reads_unchanged :
    ¬ ∀ (r : Run) (i k : Nat) (id : AllocationId) (f : Frame) (a : Allocation),
      r.Pushes i id f → f.permission = .sharedReadOnly → r.allocation? (i + 1) id = some a →
      a.interiorMutable = false → i < k → r.Performs k .read ⟨id, some f.tag⟩ →
      (∀ j p, i < j → j < k → r.Performs j .write p → p.target ≠ id) ∧
      r.observed? k = some a.value := by
  intro claim
  have holds := claim overlapping 1 5 0 ⟨⟨1⟩, .sharedReadOnly, some ⟨0⟩⟩ _ (by decide) rfl rfl rfl
    (by decide) (by decide)
  exact holds.1 3 ⟨0, some ⟨2⟩⟩ (by decide) (by decide) (by decide) rfl

/-- A read-only pointer to plain data observes a later write only after a read through an older
    pointer: each write between the push of its frame and a granted read through it goes through a
    younger tag, and a read through an older ancestor of that tag follows before the pointer is
    read. Where no older pointer is read, nothing is written and the value is the one at the
    push. -/
theorem reads_of_shared {i k : Nat} {id : AllocationId} {f : Frame} {a : Allocation}
    (pushed : r.Pushes i id f) (readOnly : f.permission = .sharedReadOnly)
    (created : r.allocation? (i + 1) id = some a) (plain : a.interiorMutable = false)
    (later : i < k) (reads : r.Performs k .read ⟨id, some f.tag⟩) :
    (∀ j p, i < j → j < k → r.Performs j .write p → p.target = id →
      ∃ w, p.tag = some w ∧ f.tag.serial < w.serial ∧ ∃ l x c, j < l ∧ l < k ∧
        r.Performs l .read ⟨id, some x⟩ ∧ x.serial < f.tag.serial ∧
        r.allocation? l id = some c ∧ c.Descends w x) ∧
    ((∀ l x, i < l → l < k → r.Performs l .read ⟨id, some x⟩ → f.tag.serial ≤ x.serial) →
      (∀ j p, i < j → j < k → r.Performs j .write p → p.target ≠ id) ∧
      r.observed? k = some a.value) := by
  have followed : ∀ j p, i < j → j < k → r.Performs j .write p → p.target = id →
      ∃ w, p.tag = some w ∧ f.tag.serial < w.serial ∧ ∃ l x c, j < l ∧ l < k ∧
        r.Performs l .read ⟨id, some x⟩ ∧ x.serial < f.tag.serial ∧
        r.allocation? l id = some c ∧ c.Descends w x := by
    intro j p hij hjk writes here
    obtain ⟨w, c, c', tagged, moved⟩ := writes.moves
    have through : p = ⟨id, some w⟩ := by rw [← here, ← tagged]
    subst through
    have plain_c := (interiorMutable_later created hij moved.before).trans plain
    exact ⟨w, rfl, read_between pushed readOnly reads hij hjk moved.before plain_c writes⟩
  refine ⟨followed, fun noOlder => ?_⟩
  have unwritten : ∀ j p, i < j → j < k → r.Performs j .write p → p.target ≠ id := by
    intro j p hij hjk writes here
    obtain ⟨w, -, -, l, x, c, hjl, hlk, read, older, -⟩ := followed j p hij hjk writes here
    have := noOlder l x (by omega) hlk read
    omega
  refine ⟨unwritten, ?_⟩
  obtain ⟨_, b, b', -, last⟩ := reads.moves
  have same := value_later created later last.before fun j w hij hjk writes =>
    unwritten j _ (by omega) hjk writes rfl
  rw [reads.observed last.before, same]

theorem reads_of_shared_overlapping :
    ∃ l x, 3 < l ∧ l < 5 ∧ overlapping.Performs l .read ⟨0, some x⟩ ∧ x.serial < 1 := by
  have pushed : overlapping.Pushes 1 0 ⟨⟨1⟩, .sharedReadOnly, some ⟨0⟩⟩ := by decide
  have reads : overlapping.Performs 5 .read ⟨0, some ⟨1⟩⟩ := by decide
  have writes : overlapping.Performs 3 .write ⟨0, some ⟨2⟩⟩ := by decide
  obtain ⟨followed, -⟩ := reads_of_shared pushed rfl rfl rfl (by decide) reads
  obtain ⟨w, -, -, l, x, c, after, before, read, older, -⟩ :=
    followed 3 _ (by decide) (by decide) writes rfl
  exact ⟨l, x, after, before, read, older⟩

end Run

end PointerTrace
