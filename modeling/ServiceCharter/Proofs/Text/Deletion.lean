import ServiceCharter.Proofs.Text.Edges

/-!
# Deletions

A text comes from another by deletions in a class of characters if it is what is left when some
characters of the class are taken out (`Deletes`): nothing is moved, added or changed, and no
character outside of the class is gone. Deletions can be made piece by piece (`Deletes.append`) and
one after another (`Deletes.trans`).
-/

namespace ServiceCharter.Text

/-- The text `u` is what is left of `t` when some characters in the class `p` are taken out. -/
structure Deletes (p : Char → Bool) (t u : Text) : Prop where
  sublist : u.Sublist t
  filter_eq : u.filter (fun c => !p c) = t.filter fun c => !p c

namespace Deletes

variable {p q : Char → Bool} {t u v : Text}

theorem refl (p : Char → Bool) (t : Text) : Deletes p t t := ⟨.refl t, rfl⟩

/-- A text in the class can be taken out as a whole. -/
theorem of_forall (h : ∀ c ∈ t, p c = true) : Deletes p t [] where
  sublist := List.nil_sublist t
  filter_eq := (List.filter_eq_nil_iff.2 fun c hc => by simp [h c hc]).symm

theorem append {t' u' : Text} (h : Deletes p t u) (h' : Deletes p t' u') :
    Deletes p (t ++ t') (u ++ u') where
  sublist := h.sublist.append h'.sublist
  filter_eq := by rw [List.filter_append, List.filter_append, h.filter_eq, h'.filter_eq]

theorem cons (c : Char) (h : Deletes p t u) : Deletes p (c :: t) (c :: u) :=
  (refl p [c]).append h

theorem trans (h : Deletes p t u) (h' : Deletes p u v) : Deletes p t v where
  sublist := h'.sublist.trans h.sublist
  filter_eq := h'.filter_eq.trans h.filter_eq

/-- Deletions in a class are deletions in a wider one. -/
theorem mono (h : Deletes p t u) (hpq : ∀ c, p c = true → q c = true) : Deletes q t u where
  sublist := h.sublist
  filter_eq := by
    have hfilter : ∀ s : Text,
        s.filter (fun c => !q c) = (s.filter fun c => !p c).filter fun c => !q c := by
      intro s
      rw [List.filter_filter]
      refine List.filter_congr fun c _ => ?_
      cases hp : p c
      · simp
      · simp [hpq c hp]
    rw [hfilter u, hfilter t, h.filter_eq]

/-- A character outside of the class stays as often as it was. -/
theorem count_eq (h : Deletes p t u) {c : Char} (hc : p c = false) : u.count c = t.count c := by
  have hcount : ∀ s : Text, (s.filter fun d => !p d).count c = s.count c :=
    fun s => List.count_filter (by simp [hc])
  rw [← hcount u, ← hcount t, h.filter_eq]

end Deletes

theorem trim_sublist (t : Text) : (trim t).Sublist t := by
  obtain ⟨lead, ht, -⟩ := exists_trimStart_eq t
  obtain ⟨trail, hstart, -⟩ := exists_trimEnd_eq (trimStart t)
  have hsuffix : trimStart t <:+ t := ⟨lead, ht.symm⟩
  have hprefix : trim t <+: trimStart t := ⟨trail, hstart.symm⟩
  exact hprefix.sublist.trans hsuffix.sublist

/-- Trimming takes white space only. -/
theorem deletes_trim (t : Text) : Deletes isBlank t (trim t) := ⟨trim_sublist t, bare_trim t⟩

end ServiceCharter.Text
