import Accessors.Proofs.Text.LineCut

/-!
# Insertions on different lines

An insertion leaves alone what is above its line (`insertAt_append`), so the lines up to there are
those of the document before it (`take_linesOf_insertAt`). What is below its line only moves down,
by the line feeds that are put in. So two insertions on different lines may be made in either order,
if the line of the lower one is counted in the document that it is made in (`insertAt_comm`).
-/

namespace Accessors.Text

/-- **An insertion leaves alone what is above its line.** -/
theorem insertAt_append {above below : String} {position : Position}
    (h : LineCut position.line.toNat above.toList below.toList) (fragments : List String) :
    insertAt (above ++ below) position fragments =
      above ++ insertAt below ⟨0, position.character⟩ fragments := by
  have hcut : cut (above ++ below) position =
      (above ++ (cut below ⟨0, position.character⟩).1, (cut below ⟨0, position.character⟩).2) := by
    simp only [cut, cutAt, String.toList_append, cutLine_of_lineCut h]
    rw [show (0 : UInt32).toNat = 0 from rfl, cutLine]
    simp
  simp only [insertAt, hcut, String.append_assoc]

theorem take_linesOf_insertAt {text : String} {position : Position} {n : Nat}
    (hn : n ≤ position.line.toNat) (hline : position.line.toNat ≤ text.toList.count '\n')
    (fragments : List String) :
    (linesOf (insertAt text position fragments)).take n = (linesOf text).take n := by
  obtain ⟨above, below, rfl, hcut⟩ := exists_lineCut position.line.toNat text
  rw [String.toList_append] at hline
  have hwithin := hcut.within hline
  have htake (below' : String) : (linesOf (above ++ below')).take n = (linesOf above).take n := by
    rw [← hwithin.take_linesOf below', List.take_take, Nat.min_eq_left hn]
  rw [insertAt_append hcut, htake, htake]

/-! ## Two insertions -/

/-- Between the starts of two lines there is a text of its own. Whatever stands in front of it, the
lower line starts behind it. -/
theorem exists_between {text : String} {n m : Nat} (hn : n ≤ text.toList.count '\n') (h : n < m) :
    ∃ above middle below : String, above ++ middle ++ below = text ∧
      LineCut.Within n above.toList ∧
      ∀ front : String, LineCut (front.toList.count '\n' + (m - n)) (front ++ middle).toList
        below.toList := by
  obtain ⟨above, rest, rfl, hcut⟩ := exists_lineCut n text
  obtain ⟨middle, below, rfl, hrest⟩ := exists_lineCut (m - n) rest
  rw [String.toList_append] at hn
  refine ⟨above, middle, below, String.append_assoc, hcut.within hn, fun front => ?_⟩
  rw [String.toList_append]
  exact hrest.append_left (Nat.sub_pos_of_lt h) front.toList

theorem toNat_add_ofNat {line : UInt32} {n : Nat} (h : line.toNat + n < UInt32.size) :
    (line + UInt32.ofNat n).toNat = line.toNat + n := by
  have hn : n < UInt32.size := by omega
  rw [UInt32.toNat_add, UInt32.toNat_ofNat_of_lt' hn]
  exact Nat.mod_eq_of_lt h

/-- **Insertions at the start of two lines may be made in either order.** The upper line has to be
one of the document, and what is put in there moves the lower one down. -/
theorem insertAt_comm {text : String} {a b : UInt32} (hab : a < b)
    (ha : a.toNat ≤ text.toList.count '\n') (lower upper : List String)
    (hfit : b.toNat + (String.join upper).toList.count '\n' < UInt32.size) :
    insertAt (insertAt text (.startOf b) lower) (.startOf a) upper =
      insertAt (insertAt text (.startOf a) upper)
        (.startOf (b + UInt32.ofNat ((String.join upper).toList.count '\n'))) lower := by
  have hlt : a.toNat < b.toNat := hab
  obtain ⟨above, middle, below, rfl, hwithin, hlower⟩ := exists_between ha hlt
  have hb : LineCut b.toNat (above ++ middle).toList below.toList := by
    have := hlower above
    rwa [hwithin.count, Nat.add_sub_of_le (Nat.le_of_lt hlt)] at this
  have hmoved : LineCut (b + UInt32.ofNat ((String.join upper).toList.count '\n')).toNat
      (above ++ String.join upper ++ middle).toList below.toList := by
    have hline : b.toNat + (String.join upper).toList.count '\n' =
        (above ++ String.join upper).toList.count '\n' + (b.toNat - a.toNat) := by
      rw [String.toList_append, List.count_append, hwithin.count]
      omega
    rw [toNat_add_ofNat hfit, hline]
    exact hlower _
  calc insertAt (insertAt (above ++ middle ++ below) (.startOf b) lower) (.startOf a) upper
    _ = insertAt (above ++ (middle ++ String.join lower ++ below)) (.startOf a) upper := by
      rw [insertAt_startOf hb]
      simp only [String.append_assoc]
    _ = above ++ String.join upper ++ middle ++ String.join lower ++ below := by
      rw [insertAt_startOf (hwithin.lineCut _)]
      simp only [String.append_assoc]
    _ = insertAt (above ++ String.join upper ++ middle ++ below)
        (.startOf (b + UInt32.ofNat ((String.join upper).toList.count '\n'))) lower := by
      rw [insertAt_startOf hmoved]
    _ = insertAt (insertAt (above ++ middle ++ below) (.startOf a) upper)
        (.startOf (b + UInt32.ofNat ((String.join upper).toList.count '\n'))) lower := by
      have hbelow : above ++ middle ++ below = above ++ (middle ++ below) := String.append_assoc
      rw [hbelow, insertAt_startOf (hwithin.lineCut _)]
      simp only [String.append_assoc]

/-- The upper insertion cuts a line break in two and stops within a line, the lower one ends in a
carriage return. -/
theorem insertAt_comm_returns :
    (1 : UInt32) < 2 ∧
      insertAt (insertAt "a\r\nb\r\nc" (.startOf 2) ["x\r"]) (.startOf 1) ["y\r", "\nz"] =
        insertAt (insertAt "a\r\nb\r\nc" (.startOf 1) ["y\r", "\nz"]) (.startOf 3) ["x\r"] := by
  have hlt : (1 : UInt32) < 2 := by decide
  exact ⟨hlt, insertAt_comm hlt (by decide) ["x\r"] ["y\r", "\nz"] (by decide)⟩

end Accessors.Text
