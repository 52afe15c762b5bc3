import AISummoner.Tunnel.Manager

/-! # Newest wins

What it takes to be online: the entry of the map is a live connection of that
Device.  Each operation of the manager is described by what was online before it
if something is online after it.
-/

namespace AISummoner.Tunnel.Manager

variable {m s s' : Manager} {cn o : Nat} {did dev : String}

/-! ## Well-formed managers -/

structure Sound (manager : Manager) : Prop where
  /-- An entry of the map is a connection of that Device. -/
  current : ∀ {deviceID connection}, manager.current deviceID = some connection →
    manager.On connection (·.deviceID = deviceID)
  closing : manager.closing = true → ∀ deviceID, manager.current deviceID = none

theorem sound_empty : empty.Sound := ⟨nofun, fun _ _ => rfl⟩

theorem Sound.later (hs : s.Sound) (k' : s.Later s')
    (cur : ∀ {did cn}, s'.current did = some cn → s.current did = some cn)
    (hclg : s'.closing → s.closing ∨ ∀ did, s'.current did = none) : s'.Sound where
  current hf := (hs.current (cur hf)).later k' fun hch h =>
    hch.deviceID.trans h
  closing isClosing did := by
    rcases hclg isClosing with already | hcl
    · cases hf : s'.current did with
      | none => rfl
      | some cn =>
        have he := cur hf
        rw [hs.closing already did] at he
        cases he
    · exact hcl did

theorem current_setCurrent : (m.setCurrent did (some cn)).current dev =
      if dev = did then some cn else m.current dev := rfl

theorem current_of_remove (hf : (m.remove cn).current did = some o) : m.current did = some o := by
  unfold remove at hf
  split at hf
  · exact hf
  split at hf
  · simp only [setCurrent] at hf
    split at hf
    · cases hf
    · exact hf
  · exact hf

theorem later_remove : m.Later (m.remove cn) :=
  later_of_connections connections_remove (by rw [closing_remove]; exact id)

theorem later_reap : m.Later (m.reap cn) :=
  later_of_connections connections_remove (by
    show m.closing = true → (m.remove cn).closing = true
    rw [closing_remove]
    exact id)

theorem Sound.remove (hs : m.Sound) : (m.remove cn).Sound :=
  hs.later later_remove current_of_remove (by rw [closing_remove]; exact .inl)

theorem Sound.reap (hs : m.Sound) : (m.reap cn).Sound := ⟨hs.remove.current, hs.remove.closing⟩

theorem Sound.close (hs : m.Sound) : (m.close cn).Sound := hs.later later_close id .inl

theorem later_detachDevice : m.Later (m.detachDevice did).2 := by
  unfold detachDevice
  split
  · exact .refl m
  · rename_i cn hf
    have hcl : m.Later (m.setCurrent did none) := later_of_connections rfl id
    exact hcl.trans later_close

theorem current_of_detachDevice (hf : (m.detachDevice did).2.current dev = some cn) :
    dev ≠ did ∧ m.current dev = some cn := by
  unfold detachDevice at hf
  split at hf
  · rename_i hab
    refine ⟨?_, hf⟩
    rintro rfl
    exact nomatch hf.symm.trans hab
  · change (if dev = did then none else m.current dev) = some cn at hf
    split at hf
    · cases hf
    · exact ⟨‹_›, hf⟩

theorem closing_detachDevice : (m.detachDevice did).2.closing = m.closing := by
  unfold detachDevice
  split <;> rfl

theorem Sound.detachDevice (hs : m.Sound) : (m.detachDevice did).2.Sound :=
  hs.later later_detachDevice (fun hf => (current_of_detachDevice hf).2)
    (by rw [closing_detachDevice]; exact .inl)

theorem later_closeAll : m.Later m.closeAll.2 := by
  unfold closeAll
  split
  · exact .refl m
  · exact later_of_connections rfl fun _ => rfl

theorem Sound.current_closeAll (hs : m.Sound) (did : String) : m.closeAll.2.current did = none := by
  unfold closeAll
  split
  · exact hs.closing ‹_› did
  · rfl

theorem Sound.closeAll (hs : m.Sound) : m.closeAll.2.Sound where
  current found := by
    rw [hs.current_closeAll] at found
    cases found
  closing _ := hs.current_closeAll

theorem Sound.newConnection (hs : m.Sound) {id : String} : (m.newConnection id did).2.Sound :=
  hs.later later_newConnection (fun hf => hf) .inl

variable {change : Connection → Connection} {a : Bool}

theorem Sound.update (hs : m.Sound) (hch : ∀ v : Connection, v.Later (change v)) :
    (m.update cn change).Sound :=
  hs.later (later_update hch) id .inl

/-! ## Registrations -/

inductive Registers (manager : Manager) (connection : Nat) : Bool → Manager → Prop
  | absent (missing : manager.connections[connection]? = none) :
    Registers manager connection false manager
  | refused {value : Connection} (located : manager.connections[connection]? = some value)
    (closing : manager.closing = true) : Registers manager connection false (manager.close connection)
  | installed {value : Connection} (located : manager.connections[connection]? = some value)
    (accepting : manager.closing = false)
    (alone : ∀ old, manager.current value.deviceID = some old → old = connection) :
    Registers manager connection true
      ((manager.ownLocked connection).setCurrent value.deviceID (some connection))
  | replaced {value : Connection} {old : Nat}
    (located : manager.connections[connection]? = some value)
    (accepting : manager.closing = false) (found : manager.current value.deviceID = some old)
    (different : old ≠ connection) :
    Registers manager connection true
      (((manager.ownLocked connection).setCurrent value.deviceID (some connection)).close old)

theorem registers_register : m.Registers cn (m.register cn).1 (m.register cn).2 := by
  unfold register
  split
  · exact .absent ‹_›
  rename_i v hl
  split
  · exact .refused hl ‹_›
  rename_i hac
  have hac := Bool.eq_false_iff.mpr hac
  dsimp only
  split
  · rename_i old hf
    split
    · rename_i h
      refine .installed hl hac ?_
      rintro _ again
      exact (Option.some.inj (again.symm.trans hf)).trans h
    · exact .replaced hl hac hf ‹_›
  · rename_i hem
    refine .installed hl hac ?_
    intro old hf
    exact nomatch hf.symm.trans hem

theorem later_install : m.Later ((m.ownLocked cn).setCurrent did (some o)) :=
  later_of_connections connections_ownLocked (by
    show m.closing = true → (m.ownLocked cn).closing = true
    rw [closing_ownLocked]
    exact id)

theorem Registers.later (rg : m.Registers cn a s') : m.Later s' := by
  cases rg with
  | absent _ => exact .refl m
  | refused hl _ => exact later_close
  | installed hl hac _ => exact later_install
  | replaced hl hac _ _ => exact later_install.trans later_close

theorem Registers.owned (rg : m.Registers cn a s') : o ∈ s'.owned ↔ a ∧ o = cn ∨ o ∈ m.owned := by
  cases rg with
  | absent _ => simp
  | refused hl _ => simp [close, update]
  | installed hl hac _ => simp [setCurrent, mem_ownLocked]
  | replaced hl hac _ _ => simp [setCurrent, close, update, mem_ownLocked]

theorem Sound.install (hs : m.Sound) {v : Connection}
    (hl : m.connections[cn]? = some v) (hac : m.closing = false) :
    ((m.ownLocked cn).setCurrent v.deviceID (some cn)).Sound where
  current {dev o} found := by
    rw [current_setCurrent, current_ownLocked] at found
    split at found
    · subst_vars
      cases found
      exact ⟨v, by rw [← hl]; exact congrArg (·[cn]?) connections_ownLocked, rfl⟩
    · exact (hs.current found).later later_install fun hch h =>
        hch.deviceID.trans h
  closing closing := by
    change (m.ownLocked cn).closing = true at closing
    rw [closing_ownLocked, hac] at closing
    cases closing

theorem Registers.sound (rg : m.Registers cn a s') (hs : m.Sound) : s'.Sound := by
  cases rg with
  | absent _ => exact hs
  | refused hl _ => exact hs.close
  | installed hl hac _ => exact hs.install hl hac
  | replaced hl hac _ _ => exact (hs.install hl hac).close

/-! ## Being online -/

theorem isClosed_eq_false : m.isClosed cn = false ↔ m.On cn (·.closed = false) := by
  unfold isClosed On
  cases m.connections[cn]? with
  | none | some v => simp

theorem isClosed_of_on (cl : m.On cn (·.closed = true)) : m.isClosed cn := by
  obtain ⟨v, hl, cl⟩ := cl
  rw [isClosed, hl]
  exact cl

theorem selectLive_eq_some : m.selectLive did = some cn ↔
    m.current did = some cn ∧ m.isClosed cn = false := by
  simp [selectLive, Option.filter_eq_some_iff]

theorem Later.live (k' : s.Later s') (ht : s.On cn fun _ => True)
    (live : s'.isClosed cn = false) : s.isClosed cn = false := by
  obtain ⟨v, hl, _⟩ := ht
  obtain ⟨new, hf, hch⟩ := k'.connections hl
  cases hcl : v.closed with
  | false => exact isClosed_eq_false.mpr ⟨v, hl, hcl⟩
  | true =>
    have isClosed := isClosed_of_on ⟨new, hf, hch.closed hcl⟩
    rw [live] at isClosed
    cases isClosed

theorem selectLive_of_later (k' : s.Later s') (hs : s.Sound)
    (cur : s'.current did = some cn → s.current did = some cn)
    (hon : s'.selectLive did = some cn) : s.selectLive did = some cn := by
  obtain ⟨hf, live⟩ := selectLive_eq_some.mp hon
  have he := cur hf
  have ht := (hs.current he).mono fun _ => trivial
  exact selectLive_eq_some.mpr ⟨he, k'.live ht live⟩

theorem Sound.selectLive_close (hs : m.Sound) (hon : (m.close o).selectLive did = some cn) :
    m.selectLive did = some cn ∧ cn ≠ o := by
  have hpre := selectLive_of_later later_close hs id hon
  refine ⟨hpre, ?_⟩
  rintro rfl
  have ht := (hs.current (selectLive_eq_some.mp hpre).1).mono fun _ => trivial
  have hcl := isClosed_of_on (on_close ht)
  rw [(selectLive_eq_some.mp hon).2] at hcl
  cases hcl

theorem Sound.selectLive_remove (hs : m.Sound) (hon : (m.remove o).selectLive did = some cn) :
    m.selectLive did = some cn ∧ cn ≠ o := by
  refine ⟨selectLive_of_later later_remove hs current_of_remove hon, ?_⟩
  rintro rfl
  have he := (selectLive_eq_some.mp hon).1
  obtain ⟨v, hl, rfl⟩ := hs.current (current_of_remove he)
  rw [Manager.remove, hl] at he
  simp only [setCurrent] at he
  split at he
  · simp at he
  · exact absurd he ‹_›

theorem Registers.selectLive (rg : m.Registers o a s')
    (hs : m.Sound) (hon : s'.selectLive did = some cn) :
    (a ∧ o = cn ∧ s'.On cn (·.deviceID = did)) ∨ m.selectLive did = some cn ∧
        (a → s'.On o (·.deviceID ≠ did)) ∧ (a = false → m.On o (fun _ => True) → cn ≠ o) := by
  have hk' := rg.later
  have afterSound := rg.sound hs
  cases rg with
  | absent hmi =>
    refine .inr ⟨hon, nofun, fun _ ht => ?_⟩
    obtain ⟨v, hl, _⟩ := ht
    rw [hmi] at hl
    cases hl
  | refused hl _ =>
    obtain ⟨pre, ne⟩ := hs.selectLive_close hon
    exact .inr ⟨pre, nofun, fun _ _ => ne⟩
  | @installed v hl _ _ | @replaced v _ hl _ _ _ =>
    have he : ((m.ownLocked o).setCurrent v.deviceID (some o)).current did =
        some cn := (selectLive_eq_some.mp hon).1
    rw [current_setCurrent, current_ownLocked] at he
    split at he
    · cases he
      exact .inl ⟨rfl, rfl, afterSound.current (selectLive_eq_some.mp hon).1⟩
    rename_i hel
    refine .inr ⟨selectLive_of_later hk' hs (fun _ => he) hon, fun _ => ?_, nofun⟩
    obtain ⟨new, hf, hch⟩ := hk'.connections hl
    exact ⟨new, hf, fun h => hel (h.symm.trans hch.deviceID)⟩

theorem current_remove_ne (ne : cn ≠ o) (hf : m.current did = some cn) :
    (m.remove o).current did = some cn := by
  unfold remove
  split
  · exact hf
  rename_i v hl
  split
  · rename_i e
    simp only [setCurrent]
    split
    · subst_vars
      exact absurd (Option.some.inj (hf.symm.trans e)) ne
    · exact hf
  · exact hf

theorem isClosed_update_ne (ne : o ≠ cn) : (m.update cn change).isClosed o = m.isClosed o := by
  unfold isClosed
  rw [connections_update]
  simp [Ne.symm ne]

theorem selectLive_update_ne (ne : o ≠ cn) (hon : m.selectLive did = some o) :
    (m.update cn change).selectLive did = some o := by
  obtain ⟨hf, live⟩ := selectLive_eq_some.mp hon
  rw [← isClosed_update_ne ne] at live
  exact selectLive_eq_some.mpr ⟨hf, live⟩

theorem selectLive_remove_ne (ne : o ≠ cn) (hon : m.selectLive did = some o) :
    (m.remove cn).selectLive did = some o := by
  obtain ⟨hf, live⟩ := selectLive_eq_some.mp hon
  refine selectLive_eq_some.mpr ⟨current_remove_ne ne hf, ?_⟩
  rw [isClosed, connections_remove]
  exact live

theorem isOnline_eq : m.isOnline did = (m.selectLive did).isSome := by
  unfold isOnline selectLive
  cases m.current did with
  | none => rfl
  | some cn => cases shut : m.isClosed cn <;> simp [shut]

theorem Sound.on_detachDevice (hs : m.Sound) (hf : m.current did = some cn) :
    (m.detachDevice did).2.On cn (·.closed = true) := by
  rw [Manager.detachDevice, hf]
  have ht := (hs.current hf).mono fun _ => trivial
  exact on_close ht

theorem closing_closeAll : m.closeAll.2.closing := by
  unfold closeAll
  split
  · assumption
  · rfl

/-! ## Cleaning up -/

/-- Only a closed connection has been cleaned up. -/
def Tidy (manager : Manager) : Prop :=
  ∀ ⦃connection : Nat⦄ ⦃value : Connection⦄, manager.connections[connection]? = some value →
    value.cleaned = true → value.closed = true

theorem Tidy.of_connections (tidy : s.Tidy) (h : s'.connections = s.connections) : s'.Tidy := by
  intro _ v hl
  rw [h] at hl
  exact tidy hl

theorem Tidy.update (tidy : m.Tidy) (hch : ∀ {value}, m.connections[cn]? = some value →
      (value.cleaned → value.closed) → (change value).cleaned → (change value).closed) :
    (m.update cn change).Tidy := by
  intro o value l
  rw [connections_update, Option.map_eq_some_iff] at l
  obtain ⟨_, hf, rfl⟩ := l
  split
  · subst_vars
    exact hch hf (tidy hf)
  · exact tidy hf

theorem Tidy.close (tidy : m.Tidy) : (m.close cn).Tidy := tidy.update fun _ _ _ => rfl

theorem Tidy.newConnection (tidy : m.Tidy) {id : String} : (m.newConnection id did).2.Tidy := by
  intro o v hl
  change (m.connections ++ [_])[o]? = some v at hl
  rw [List.getElem?_append] at hl
  split at hl
  · exact tidy hl
  intro hcn
  have hm := List.mem_of_getElem? hl
  rw [List.mem_singleton.mp hm] at hcn
  cases hcn

theorem Tidy.detachDevice (tidy : m.Tidy) : (m.detachDevice did).2.Tidy := by
  unfold Manager.detachDevice
  split
  · exact tidy
  · exact Tidy.close (tidy.of_connections rfl)

theorem Tidy.closeAll (tidy : m.Tidy) : m.closeAll.2.Tidy := by
  unfold Manager.closeAll
  split
  · exact tidy
  · exact tidy.of_connections rfl

theorem Registers.tidy (rg : m.Registers cn a s') (tidy : m.Tidy) : s'.Tidy := by
  cases rg with
  | absent _ => exact tidy
  | refused hl _ => exact tidy.close
  | installed hl hac _ => exact tidy.of_connections connections_ownLocked
  | replaced hl hac _ _ =>
    exact Tidy.close (tidy.of_connections connections_ownLocked)

theorem Registers.accepting (rg : m.Registers cn true s') : m.closing = false := by
  cases rg with
  | installed hl hac alone | replaced hl hac hf ne =>
    exact hac

end AISummoner.Tunnel.Manager
