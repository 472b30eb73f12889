import ServiceControl.Proofs.Texts
import ServiceControl.Proofs.Windows.Exchanges
/-!
# The stop timeout that the registry tells

The setting of the stop timeout is read into a buffer of fixed size, whatever size the registry tells.  Main statement:
the timeout is the number that the units tell that were read, and the default if they tell none (`stopTimeout_eq_iff`).
-/
namespace ServiceControl.Windows

open Cell (Leads Returns)
open Json (DigitRow digitChars)
open Json.Numeral (digitsValue)
open Text (encodeUtf16 decodeUtf16 isAllBlank isBlank replacement Signed)

/-! ## The buffer -/

theorem length_buffer (units : List Nat) : (buffer units).length = bufferUnits := by
  simp [buffer]

theorem unitsRead_eq_take (size : Nat) (units : List Nat) :
    unitsRead size units = (buffer units).take (min (size / 2) bufferUnits) := by
  rw [unitsRead, slice_eq_take, length_buffer]

/-- **What is read lies in the buffer**, whatever size is told. -/
theorem length_unitsRead (size : Nat) (units : List Nat) :
    (unitsRead size units).length = min (size / 2) bufferUnits := by
  rw [unitsRead_eq_take, List.length_take, length_buffer, Nat.min_assoc, Nat.min_self]

theorem words_unitsRead {units : List Nat} (words : ∀ u ∈ units, u < 0x10000) (size : Nat) :
    ∀ u ∈ unitsRead size units, u < 0x10000 := by
  intro u hu
  rw [unitsRead_eq_take] at hu
  rcases List.mem_append.1 (List.mem_of_mem_take (List.mem_of_mem_take hu)) with h | h
  · exact words u h
  · rw [List.eq_of_mem_replicate h]
    decide

/-- Units that lie first in the buffer are read alone if the size tells their number. -/
theorem unitsRead_append {us : List Nat} (rest : List Nat) {size : Nat} (fits : us.length ≤ bufferUnits)
    (told : size / 2 = us.length) : unitsRead size (us ++ rest) = us := by
  rw [unitsRead_eq_take, buffer, told, Nat.min_eq_left fits, List.take_take, Nat.min_eq_left fits, List.append_assoc,
    List.take_left]

/-! ## Settings -/

/-- **How a setting of so many milliseconds is spelled**: digits that may follow a plus sign, within 64 bits, blanks
around them, and NULs after all of it. -/
inductive Spelled : Nat → List Char → Prop
  | mk {before sign after : List Char} {ds : List Nat} {nuls : Nat} (hb : isAllBlank before = true)
      (signed : Signed sign) (row : DigitRow ds) (bound : digitsValue ds < 2 ^ 64) (ha : isAllBlank after = true) :
      Spelled (digitsValue ds) (before ++ (sign ++ digitChars ds ++ after) ++ List.replicate nuls '\x00')

/-- A number that is printed is spelled. -/
theorem spelled_toString {n : Nat} {before after : List Char} (bound : n < 2 ^ 64) (hb : isAllBlank before = true)
    (ha : isAllBlank after = true) (nuls : Nat) :
    Spelled n (before ++ ((toString n).toList ++ after) ++ List.replicate nuls '\x00') := by
  obtain ⟨ds, row, -, digits, rfl⟩ := Json.toDigits_spelled n
  rw [Nat.toString_eq_repr, Nat.toList_repr, digits]
  exact @Spelled.mk before [] after ds nuls hb (.inl rfl) row bound ha

/-- What a setting is without its NULs holds neither a NUL nor a character that stands for what cannot be decoded. -/
theorem mem_setting {before sign after : List Char} {ds : List Nat} (hb : isAllBlank before = true)
    (signed : Signed sign) (row : DigitRow ds) (ha : isAllBlank after = true) :
    ∀ c ∈ before ++ (sign ++ digitChars ds ++ after), c ≠ '\x00' ∧ c ≠ replacement := by
  have blank {cs : List Char} (h : isAllBlank cs = true) : ∀ c ∈ cs, c ≠ '\x00' ∧ c ≠ replacement := by
    intro c hc
    have hblank := List.all_eq_true.1 h c hc
    constructor
    · rintro rfl
      exact absurd hblank (by decide)
    · rintro rfl
      exact absurd hblank (by decide)
  have digit : ∀ d < 10, d.digitChar ≠ '\x00' ∧ d.digitChar ≠ replacement := by decide
  intro c hc
  rcases List.mem_append.1 hc with hc | hc
  · exact blank hb c hc
  rcases List.mem_append.1 hc with hc | hc
  · rcases List.mem_append.1 hc with hc | hc
    · rcases signed with rfl | rfl
      · cases hc
      · rw [List.mem_singleton.1 hc]
        decide
    · obtain ⟨d, hd, rfl⟩ := List.mem_map.1 hc
      exact digit d (row.2 d hd)
  · exact blank ha c hc

theorem Spelled.whole {n : Nat} {cs : List Char} (h : Spelled n cs) : replacement ∉ cs := by
  obtain ⟨hb, signed, row, -, ha⟩ := h
  intro hmem
  rcases List.mem_append.1 hmem with hc | hc
  · exact (mem_setting hb signed row ha _ hc).2 rfl
  · exact absurd (List.eq_of_mem_replicate hc) (by decide)

/-- A text without the NULs at its end. -/
def withoutNuls (cs : List Char) : List Char := cs.rdropWhile (· = '\x00')

theorem withoutNuls_split (cs : List Char) : ∃ nuls, cs = withoutNuls cs ++ List.replicate nuls '\x00' := by
  refine ⟨(cs.rtakeWhile (· = '\x00')).length, ?_⟩
  have all : cs.rtakeWhile (· = '\x00') = List.replicate (cs.rtakeWhile (· = '\x00')).length '\x00' := by
    refine List.eq_replicate_of_mem fun c hc => ?_
    simpa using List.mem_rtakeWhile_imp hc
  rw [← all, withoutNuls, List.rdropWhile_append_rtakeWhile]

theorem withoutNuls_append {cs : List Char} (h : ∀ c ∈ cs, c ≠ '\x00') (nuls : Nat) :
    withoutNuls (cs ++ List.replicate nuls '\x00') = cs := by
  rw [withoutNuls, Text.rdropWhile_append_of_all, List.rdropWhile_eq_self_iff]
  · exact fun some => by simpa using h _ (List.getLast_mem some)
  · exact List.all_eq_true.2 fun c hc => decide_eq_true (List.eq_of_mem_replicate hc)

/-- **A number is read exactly from what spells it.** -/
theorem readNat_eq_ok_iff_spelled {n : Nat} {cs : List Char} :
    Text.readNat Text.largestWord64 (Text.trim (withoutNuls cs)) = .ok n ↔ Spelled n cs := by
  constructor
  · intro h
    obtain ⟨sign, ds, signed, row, trimmed, rfl, bound⟩ := Text.readNat_eq_ok_iff.1 h
    obtain ⟨before, after, hb, ha, split⟩ := Text.trim_split (withoutNuls cs)
    obtain ⟨nuls, hcs⟩ := withoutNuls_split cs
    rw [hcs, split, trimmed]
    exact .mk hb signed row (Nat.lt_of_le_of_lt bound (by decide)) ha
  · rintro ⟨hb, signed, row, bound, ha⟩
    rename_i before sign after ds nuls
    have solid : ∀ c ∈ sign ++ digitChars ds, isBlank c = false := by
      have digit : ∀ d < 10, isBlank d.digitChar = false := by decide
      intro c hc
      rcases List.mem_append.1 hc with hc | hc
      · rcases signed with rfl | rfl
        · cases hc
        · rw [List.mem_singleton.1 hc]
          decide
      · obtain ⟨d, hd, rfl⟩ := List.mem_map.1 hc
        exact digit d (row.2 d hd)
    rw [withoutNuls_append fun c hc => (mem_setting hb signed row ha c hc).1, Text.trim_spaced hb ha solid]
    exact Text.readNat_eq_ok_iff.2 ⟨sign, ds, signed, row, rfl, rfl, Nat.le_of_lt_succ bound⟩

/-- These units tell so many milliseconds. -/
def Tells (units : List Nat) (n : Nat) : Prop := ∃ cs, Spelled n cs ∧ units = encodeUtf16 cs

theorem read_bufferText_iff {size n : Nat} {units : List Nat} (words : ∀ u ∈ units, u < 0x10000) :
    StopTimeout.read (bufferText size units) = .ok n ↔ Tells (unitsRead size units) n := by
  have text : StopTimeout.read (bufferText size units) =
      Text.readNat Text.largestWord64 (Text.trim (withoutNuls (decodeUtf16 (unitsRead size units)))) := by
    rw [StopTimeout.read, bufferText, String.toList_ofList]
    rfl
  rw [text, readNat_eq_ok_iff_spelled]
  constructor
  · intro h
    exact ⟨_, h, (Text.encodeUtf16_decodeUtf16 (words_unitsRead words size) h.whole).symm⟩
  · rintro ⟨cs, h, read⟩
    rwa [read, Text.decodeUtf16_encodeUtf16]

/-! ## Replies -/

/-- The units of a reply are words. -/
def Reply.Words : Reply → Prop
  | .value _ _ units => ∀ u ∈ units, u < 0x10000
  | _ => True

/-- **What the replies to opening the key and to reading the value tell**: both are granted, and the value is a text. -/
def RepliesTell (opened queried : Reply) (n : Nat) : Prop :=
  opened.Grants ∧ ∃ size units, queried = .value Code.stringKind size units ∧ Tells (unitsRead size units) n

/-- The setting that a reply to reading the value gives. -/
def Reply.setting : Reply → Option String
  | .value kind size units => if kind = Code.stringKind then some (bufferText size units) else none
  | _ => none

/-- The setting that is found: none if the key cannot be opened. -/
def settingFound (opened queried : Reply) : Option String :=
  match replied opened with
  | .ok _ => queried.setting
  | .error _ => none

/-- The setting is this number. -/
def Numeric (setting : Option String) (n : Nat) : Prop := ∃ text, setting = some text ∧ StopTimeout.read text = .ok n

theorem numeric_settingFound_iff {opened queried : Reply} (words : queried.Words) (n : Nat) :
    Numeric (settingFound opened queried) n ↔ RepliesTell opened queried n := by
  by_cases grants : opened.Grants
  · have found : settingFound opened queried = queried.setting := by
      rw [settingFound, replied_of_grants grants]
    rw [found]
    constructor
    · rintro ⟨text, hsetting, hread⟩
      cases queried with
      | value kind size units =>
        rw [Reply.setting] at hsetting
        split at hsetting
        · rename_i hkind
          cases hsetting
          exact ⟨grants, size, units, by rw [hkind], (read_bufferText_iff words).1 hread⟩
        · cases hsetting
      | _ => cases hsetting
    · rintro ⟨-, size, units, rfl, tells⟩
      refine ⟨bufferText size units, ?_, (read_bufferText_iff words).2 tells⟩
      rw [Reply.setting, if_pos rfl]
  · obtain ⟨code, rfl⟩ := fails_of_refused grants
    exact ⟨fun ⟨_, hsetting, _⟩ => (nomatch hsetting), fun ⟨granted, _⟩ => absurd granted grants⟩

/-- The timeout is the number that the setting is, and the default if it is none. -/
theorem ofSetting_eq_iff (setting : Option String) (n : Nat) : StopTimeout.ofSetting setting = n ↔
    Numeric setting n ∨ n = StopTimeout.default ∧ ∀ k, ¬Numeric setting k := by
  have iff_of_silent (silent : ∀ k, ¬Numeric setting k)
      (hdefault : StopTimeout.ofSetting setting = StopTimeout.default) :
      StopTimeout.ofSetting setting = n ↔ Numeric setting n ∨ n = StopTimeout.default ∧ ∀ k, ¬Numeric setting k := by
    rw [hdefault]
    exact ⟨fun h => .inr ⟨h.symm, silent⟩, fun h => (h.resolve_left (silent n)).1.symm⟩
  cases setting with
  | none => exact iff_of_silent (fun _ => nofun) rfl
  | some text =>
    cases hread : StopTimeout.read text with
    | ok ms =>
      have hms : StopTimeout.ofSetting (some text) = ms := by
        rw [StopTimeout.ofSetting, hread]
      rw [hms]
      constructor
      · rintro rfl
        exact .inl ⟨text, rfl, hread⟩
      · rintro (⟨_, htext, hn⟩ | ⟨-, silent⟩)
        · cases htext
          exact Except.ok.inj (hread.symm.trans hn)
        · exact absurd ⟨text, rfl, hread⟩ (silent ms)
    | error fault =>
      refine iff_of_silent ?_ (by rw [StopTimeout.ofSetting, hread])
      rintro k ⟨_, htext, hk⟩
      cases htext
      exact nomatch hread.symm.trans hk

/-! ## Reading -/

/-- What Windows replies to opening the key. -/
def Machine.opened (m : Machine) : Reply := (nextReply (m.replies .openKey)).1

/-- What Windows replies to reading the value. -/
def Machine.queried (m : Machine) : Reply := (nextReply (m.replies .queryValue)).1

variable {γ : Type} {cell : Cell γ Machine}

section Reading

variable (lawful : cell.Lawful) (now : Nat) (m : Machine)
include lawful

theorem invoke_taken (f : Function) (c : Call) :
    cell.Leads (invoke cell f c : Act γ Reply) ⟨now, m⟩ (some (nextReply (m.replies f)).1) ⟨now, (m.call f c).2⟩ := by
  rw [← call_reply f c m]
  exact Leads.takeFrom lawful (Machine.call f c)

theorem acquire_taken {f : Function} (c : Call) {reply : Reply} (hreply : (nextReply (m.replies f)).1 = reply)
    (grants : reply.Grants) :
    cell.Returns (acquire cell f c) ⟨now, m⟩ (.ok ((m.call f c).2.issue.1, reply)) ⟨now, (m.call f c).2.issue.2⟩ := by
  have hrequest := request_returns (invoke_taken lawful now m f c)
  rw [hreply, replied_of_grants grants] at hrequest
  exact hrequest.bind ((Returns.lift (Leads.takeFrom lawful Machine.issue)).bind (.pure _))

theorem acquire_denied {f : Function} (c : Call) {code : Nat} (hreply : (nextReply (m.replies f)).1 = .fails code) :
    cell.Returns (acquire cell f c) ⟨now, m⟩ (.error (.system code)) ⟨now, (m.call f c).2⟩ := by
  have hrequest := request_returns (invoke_taken lawful now m f c)
  rw [hreply] at hrequest
  exact hrequest.bind_error

theorem textValue_leads (key : Handle) (name : String) :
    cell.Leads (textValue cell key name) ⟨now, m⟩ (some m.queried.setting)
      ⟨now, (m.call .queryValue (.queryValue key name (2 * bufferUnits))).2⟩ := by
  refine (invoke_taken lawful now m _ _).bind ?_
  show cell.Leads _ _ (some m.queried.setting) _
  rw [← Machine.queried]
  cases m.queried with
  | value kind size units => exact .pure _
  | _ => exact .pure _

/-- **What is asked of Windows for the setting**: the key, and if it is opened, the value, for which the buffer has 512
bytes. -/
theorem stopTimeoutSetting_leads : ∃ after asked,
    cell.Leads (stopTimeoutSetting cell) ⟨now, m⟩ (some (settingFound m.opened m.queried)) ⟨now, after⟩ ∧
      after.calls = asked ++ m.calls ∧ ∀ key name bytes, .queryValue key name bytes ∈ asked → bytes = 512 := by
  let c : Call := .openKey controlPath Code.keyRead
  by_cases grants : m.opened.Grants
  · let held := (m.call .openKey c).2.issue.2
    let key := (m.call .openKey c).2.issue.1
    let q : Call := .queryValue key stopTimeoutValue (2 * bufferUnits)
    have hqueried : held.queried = m.queried := by
      show (nextReply ((m.call .openKey c).2.replies .queryValue)).1 = _
      rw [replies_call (by decide)]
      rfl
    have hclosed : cell.Leads (closeKey cell key : Act γ Unit) ⟨now, (held.call .queryValue q).2⟩ (some ())
        ⟨now, ((held.call .queryValue q).2.call .closeKey (.closeKey key)).2.release key⟩ :=
      (invoke_taken lawful now _ _ _).bind (Leads.update lawful _)
    let after := ((held.call .queryValue q).2.call .closeKey (.closeKey key)).2.release key
    refine ⟨after, [.closeKey key, q, c], ?_, ?_, ?_⟩
    · rw [settingFound, replied_of_grants grants, ← hqueried]
      unfold stopTimeoutSetting
      refine Leads.bind (m := Act γ) (acquire_taken lawful now m c rfl grants) ?_
      exact (textValue_leads lawful now held key stopTimeoutValue).bind (hclosed.bind (.pure _))
    · show ((held.call .queryValue q).2.call .closeKey (.closeKey key)).2.calls = _
      rw [calls_call, calls_call]
      show _ :: _ :: (m.call .openKey c).2.calls = _
      rw [calls_call]
      rfl
    · intro key' name bytes hasked
      have hq : Call.queryValue key' name bytes = q := by simpa using hasked
      exact (Call.queryValue.inj hq).2.2
  · obtain ⟨code, hcode⟩ := fails_of_refused grants
    refine ⟨(m.call .openKey c).2, [c], ?_, calls_call _ _ _, ?_⟩
    · rw [hcode]
      unfold stopTimeoutSetting
      exact Leads.bind (m := Act γ) (acquire_denied lawful now m c hcode) (.pure _)
    · intro key name bytes hasked
      exact nomatch List.mem_singleton.1 hasked

theorem stopTimeout_leads : ∃ after asked,
    cell.Leads (stopTimeout cell) ⟨now, m⟩ (some (StopTimeout.ofSetting (settingFound m.opened m.queried)))
        ⟨now, after⟩ ∧
      after.calls = asked ++ m.calls ∧ ∀ key name bytes, .queryValue key name bytes ∈ asked → bytes = 512 := by
  obtain ⟨after, asked, leads, hcalls, hasked⟩ := stopTimeoutSetting_leads lawful now m
  refine ⟨after, asked, leads.bind ?_, hcalls, hasked⟩
  intro s hs
  refine ⟨congrArg some (StopTimeout.take_fst _ s), ?_⟩
  -- what is told of the setting goes to the journal
  show cell.sight ((StopTimeout.take _).run s).2 = _
  unfold StopTimeout.take
  dsimp only
  split <;> exact hs

/-- **The timeout that the registry tells**, whatever it replies.  It is the number that is spelled in the units that
were read if the key is opened and the value is a text, and the default in every other case.  What is read lies in the
buffer, for which Windows has been told its size, and the number of a text that fits into it is read back. -/
theorem stopTimeout_eq_iff (s : Scene γ) (words : (cell.get s.world).queried.Words) :
    let opened := (cell.get s.world).opened
    let queried := (cell.get s.world).queried
    let run := (stopTimeout cell).run s
    (∀ n, run.1 = n ↔ RepliesTell opened queried n ∨ n = 20000 ∧ ∀ k, ¬RepliesTell opened queried k) ∧
      (∀ size units, (buffer units).length = 256 ∧ unitsRead size units <+: buffer units ∧
        (unitsRead size units).length = min (size / 2) 256) ∧
      (∃ asked, (cell.get run.2.world).calls = asked ++ (cell.get s.world).calls ∧
        ∀ key name bytes, .queryValue key name bytes ∈ asked → bytes = 512) ∧
      ∀ n < 2 ^ 64, ∀ before after nuls, isAllBlank before = true → isAllBlank after = true →
        let units := encodeUtf16 (before ++ ((toString n).toList ++ after) ++ List.replicate nuls '\x00')
        ∀ size rest, units.length ≤ 256 → size / 2 = units.length → opened.Grants →
          queried = .value Code.stringKind size (units ++ rest) → run.1 = n := by
  intro opened queried run
  obtain ⟨after, asked, leads, hcalls, hasked⟩ := stopTimeout_leads lawful s.now (cell.get s.world)
  obtain ⟨htimeout, hafter⟩ := leads s rfl
  have htimeout : run.1 = StopTimeout.ofSetting (settingFound opened queried) := Option.some.inj htimeout
  have hafter : cell.get run.2.world = after := (Sight.mk.inj hafter).2
  have told (n : Nat) : run.1 = n ↔
      RepliesTell opened queried n ∨ n = 20000 ∧ ∀ k, ¬RepliesTell opened queried k := by
    rw [htimeout, ofSetting_eq_iff]
    exact or_congr (numeric_settingFound_iff words n)
      (and_congr_right' (forall_congr' fun k => not_congr (numeric_settingFound_iff words k)))
  have first (size : Nat) (units : List Nat) : unitsRead size units <+: buffer units :=
    unitsRead_eq_take size units ▸ List.take_prefix _ _
  refine ⟨told, fun size units => ⟨length_buffer units, first size units, length_unitsRead size units⟩,
    ⟨asked, ?_, hasked⟩, ?_⟩
  · rw [hafter, hcalls]
  · intro n bound before after nuls hb ha units size rest fits size_told grants hqueried
    refine (told n).2 (.inl ⟨grants, size, units ++ rest, hqueried, _, spelled_toString bound hb ha nuls, ?_⟩)
    exact unitsRead_append rest fits size_told

end Reading

/-- A registry in which the setting is 500, with blanks and a NUL. -/
def spacedSetting : Machine :=
  { replies := fun
      | .queryValue => [.value Code.stringKind 13 [0x20, 0x35, 0x30, 0x30, 0x0a, 0, 0xd800]]
      | _ => [] }

theorem stopTimeout_spaced : ((stopTimeout Cell.whole).run ⟨0, [], spacedSetting⟩).1 = 500 := by
  have words : spacedSetting.queried.Words := by
    show ∀ u ∈ _, u < 0x10000
    decide
  obtain ⟨-, -, -, spelled⟩ := stopTimeout_eq_iff Cell.whole_lawful ⟨0, [], spacedSetting⟩ words
  exact spelled 500 (by decide) [' '] ['\n'] 1 rfl rfl 13 [0xd800] (by decide) (by decide) (fun _ => nofun) (by decide)

end ServiceControl.Windows
