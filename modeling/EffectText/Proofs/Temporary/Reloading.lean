import EffectText.Proofs.Data.JsonText
import EffectText.Temporary

/-! # Temporary statements in JSON

    Reading what was written gives the text and the turns back (`ofJson?_toJson`). The
    statement that was kept is not written, so it is gone.

    Whatever is read as a temporary statement is **fresh** (`isFresh_of_ofJson?`): it has a
    number of turns of thirty-two bits, so that it can be written and read again.
-/

namespace EffectText.Temporary

open Json

/-! ## Members -/

/-- What `readMember` does behind the name of a printed member. -/
theorem readMember_printed {name : String} {value rest : List Char} {member : Member}
    (hblank : blank value = some ((), value))
    (hvalue : (if name = "unique" then return .text (← Json.textReader)
      else if name = "turns_left" then return .turns (← readTurns)
      else do Json.skipValue; return .other : Reader Member) value = some (member, rest)) :
    readMember ((printText name).toList ++ ':' :: value) = some (member, rest) := by
  have hcolon : Reader.char ':' (':' :: value) = some ((), value) := Reader.char_eq_some_iff.mpr rfl
  have hfront : blank (':' :: value) = some ((), ':' :: value) := blank_of_head (by decide) value
  unfold readMember
  rw [Reader.bind_of_eq_some (textReader_printText name _), Reader.bind_of_eq_some hfront,
    Reader.bind_of_eq_some hcolon, Reader.bind_of_eq_some hblank]
  exact hvalue

theorem readMember_text (s : String) (rest : List Char) :
    readMember ((printText "unique").toList ++ ':' :: ((printText s).toList ++ rest)) =
      some (.text s, rest) := by
  refine readMember_printed (blank_printText s rest) ?_
  rw [if_pos rfl, Reader.bind_of_eq_some (textReader_printText s rest)]
  rfl

theorem readTurns_toString {n : Int} (hn : isInt32 n = true) {rest : List Char}
    (hrest : EndsNumber rest) : readTurns ((toString n).toList ++ rest) = some (n, rest) := by
  have hrange : -2147483648 ≤ n ∧ n ≤ 2147483647 := by
    simpa [isInt32] using hn
  have hnumber : number ((toString n).toList ++ rest) = some (.integer n, rest) :=
    number_toString (by omega) (by omega) hrest
  unfold readTurns
  rw [Reader.bind_of_eq_some hnumber]
  dsimp only
  rw [if_pos hn]
  rfl

theorem readMember_turns {n : Int} (hn : isInt32 n = true) {rest : List Char}
    (hrest : EndsNumber rest) :
    readMember ((printText "turns_left").toList ++ ':' :: ((toString n).toList ++ rest)) =
      some (.turns n, rest) := by
  refine readMember_printed (blank_toString n rest) ?_
  rw [if_neg (by decide), if_pos rfl, Reader.bind_of_eq_some (readTurns_toString hn hrest)]
  rfl

/-! ## Round trip -/

/-- The members of a printed object, behind its opening brace. -/
def memberText (temporary : Temporary) : List Char :=
  (printText "unique").toList ++ ':' :: ((printText temporary.text).toList ++ ',' ::
    ((printText "turns_left").toList ++ ':' ::
      ((toString temporary.turnsLeft).toList ++ ['\x7d'])))

/-- The JSON text: an object of the text and the turns, without blanks. -/
theorem toList_toJson (temporary : Temporary) :
    temporary.toJson.toList = '\x7b' :: temporary.memberText := by
  simp [toJson, json, compact, compactMembers, memberText]

theorem items_memberText {temporary : Temporary} (h : isInt32 temporary.turnsLeft = true) :
    Reader.items blank readMember '\x7d' false temporary.memberText =
      some ([.text temporary.text, .turns temporary.turnsLeft], []) := by
  have hends : EndsNumber ['\x7d'] := by
    rintro c ⟨⟩
    decide
  -- as a bound on the number of members, the text only has to be long enough
  obtain ⟨bound, hbound⟩ : ∃ bound, temporary.memberText = '"' :: 'u' :: bound := by
    unfold memberText
    rw [toList_printText_append]
    exact ⟨_, rfl⟩
  have hsecond : Reader.itemsWithin blank readMember '\x7d' false ('u' :: bound)
      ((printText "turns_left").toList ++ ':' ::
        ((toString temporary.turnsLeft).toList ++ ['\x7d'])) =
      some ([.turns temporary.turnsLeft], []) :=
    Reader.itemsWithin_last (blank_printText _ _) (readMember_turns h hends)
      (blank_of_head (by decide) [])
  have hboth : Reader.itemsWithin blank readMember '\x7d' false ('"' :: 'u' :: bound)
      temporary.memberText = some ([.text temporary.text, .turns temporary.turnsLeft], []) :=
    Reader.itemsWithin_comma (by decide) (blank_printText _ _) (readMember_text _ _)
      (blank_of_head (by decide) _) (blank_printText _ _) hsecond
  have hstart : blank temporary.memberText = some ((), temporary.memberText) :=
    blank_printText _ _
  have hopen : temporary.memberText.head? ≠ some '\x7d' := by simp [hbound]
  rw [← hbound] at hboth
  exact Reader.items_of_itemsWithin hstart hopen hboth

/-- **Round trip**: the text and the turns are read back, and no statement is kept. -/
theorem ofJson?_toJson {temporary : Temporary} (h : isInt32 temporary.turnsLeft = true) :
    ofJson? temporary.toJson =
      some { text := temporary.text, turnsLeft := temporary.turnsLeft } := by
  have hbrace : Reader.char '\x7b' ('\x7b' :: temporary.memberText) =
      some ((), temporary.memberText) := Reader.char_eq_some_iff.mpr rfl
  have hpeek : Reader.peek ('\x7b' :: temporary.memberText) =
      some (some '\x7b', '\x7b' :: temporary.memberText) := rfl
  have hread : read ('\x7b' :: temporary.memberText) =
      some ({ text := temporary.text, turnsLeft := temporary.turnsLeft }, []) := by
    unfold read
    refine (Reader.bind_of_eq_some hpeek).trans ?_
    refine (Reader.bind_of_eq_some hbrace).trans ?_
    exact Reader.bind_of_eq_some (items_memberText h)
  unfold ofJson?
  rw [toList_toJson, Reader.readAll_eq_some_iff,
    Reader.bind_of_eq_some (blank_of_head (by decide) _), Reader.bind_of_eq_some hread]
  rfl

/-! ## What is read -/

/-- **Fresh**: the turns fit in thirty-two bits, and no statement is kept. -/
structure IsFresh (temporary : Temporary) : Prop where
  turns : isInt32 temporary.turnsLeft = true
  parsed : temporary.parsed = none

/-- Turns in a member of the object fit in thirty-two bits. -/
def Member.IsInRange : Member → Prop
  | .turns n => isInt32 n = true
  | _ => True

theorem gives_readTurns : Reader.Gives (isInt32 · = true) readTurns := by
  refine .bind (.any number) fun value _ => ?_
  split
  · next n =>
    split
    · next h => exact .pure h
    · exact .failure
  · exact .failure

theorem gives_readMember : Reader.Gives Member.IsInRange readMember := by
  refine .bind (.any textReader) fun name _ => .bind (.any blank) fun _ _ =>
    .bind (.any _) fun _ _ => .bind (.any blank) fun _ _ => ?_
  split
  · exact .bind (.any textReader) fun _ _ => .pure trivial
  · split
    · exact .bind gives_readTurns fun n h => .pure h
    · exact .bind (.any skipValue) fun _ _ => .pure trivial

theorem isFresh_of_ofMembers? {members : List Member} {temporary : Temporary}
    (h : ofMembers? members = some temporary) (hrange : ∀ member ∈ members, member.IsInRange) :
    temporary.IsFresh := by
  unfold ofMembers? at h
  dsimp only at h
  split at h
  · next text turns _ hturns =>
    obtain rfl := Option.some.inj h
    -- the number of turns was found in one of the members
    obtain ⟨member, hmember, hfound⟩ := List.mem_filterMap.mp
      (hturns ▸ List.mem_singleton_self turns)
    cases member with
    | text value => exact absurd hfound (by simp)
    | turns value =>
      obtain rfl := Option.some.inj hfound
      exact ⟨hrange _ hmember, rfl⟩
    | other => exact absurd hfound (by simp)
  · exact absurd h (by simp)

/-- What is read is fresh. -/
theorem isFresh_of_ofJson? {s : String} {temporary : Temporary}
    (h : ofJson? s = some temporary) : temporary.IsFresh := by
  have hread : Reader.Gives IsFresh read := by
    refine .bind (.any Reader.peek) fun c _ => ?_
    split
    -- an object
    · refine .bind (.any _) fun _ _ => ?_
      refine .bind (.items gives_readMember false) fun members hrange => ?_
      split
      · next found hfound => exact .pure (isFresh_of_ofMembers? hfound hrange)
      · exact .failure
    -- an array, whose second item is the number of turns
    · refine .bind (.any _) fun _ _ => .bind (.any _) fun _ _ => .bind (.any _) fun _ _ => ?_
      refine .bind (.any _) fun _ _ => .bind (.any _) fun _ _ => .bind (.any _) fun _ _ => ?_
      refine .bind gives_readTurns fun _ hturns => ?_
      exact .bind (.any _) fun _ _ => .bind (.any _) fun _ _ => .pure ⟨hturns, rfl⟩
    · exact .failure
  have hwhole : Reader.Gives IsFresh (do blank; let temporary ← read; blank; return temporary) :=
    .bind (.any blank) fun _ _ => .bind hread fun _ hfresh => .bind (.any blank) fun _ _ =>
      .pure hfresh
  exact hwhole.of_readAll h

end EffectText.Temporary
