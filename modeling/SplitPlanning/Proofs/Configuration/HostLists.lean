import SplitPlanning.Proofs.Configuration.Sizes
import SplitPlanning.Proofs.Text.Classes

/-!
# Texts that list hosts

Which texts list which hosts, said without reading them: pieces between commas, each of them a host
between blanks or nothing but blanks.
-/

namespace SplitPlanning

open Text

namespace HostList

/-- Whether a text may be a host: it is not empty, has no blank at its ends and no comma. -/
structure IsHost (host : String) : Prop where
  toList_ne_nil : host.toList ≠ []
  isBlank_head : ∀ c ∈ host.toList.head?, isBlank c = false
  isBlank_getLast : ∀ c ∈ host.toList.getLast?, isBlank c = false
  comma_notMem : ',' ∉ host.toList

/-- Whether pieces of text hold hosts, in order: a piece is a host between blanks or all blank. -/
inductive Hold : List (List Char) → List String → Prop where
  | nil : Hold [] []
  | blank {piece : List Char} {texts : List (List Char)} {hosts : List String}
      (hpiece : ∀ c ∈ piece, isBlank c = true) (hrest : Hold texts hosts) :
      Hold (piece :: texts) hosts
  | host {before after : List Char} {host : String} {texts : List (List Char)}
      {hosts : List String} (hhost : IsHost host) (hbefore : ∀ c ∈ before, isBlank c = true)
      (hafter : ∀ c ∈ after, isBlank c = true) (hrest : Hold texts hosts) :
      Hold ((before ++ (host.toList ++ after)) :: texts) (host :: hosts)

/-- Whether a text lists hosts: it is made of pieces that hold them, with commas in between. -/
def Lists (text : String) (hosts : List String) : Prop :=
  ∃ texts, Hold texts hosts ∧ text.toList = [','].intercalate texts

/-! ## Pieces -/

theorem pieces_eq_splitOn (s : List Char) : pieces s = s.splitOn ',' := by
  induction s with
  | nil => rfl
  | cons c rest ih =>
    rw [pieces, List.splitOn_cons_eq_if_modifyHead, ← ih]
    by_cases hc : c = ','
    · rw [if_pos hc, if_pos (beq_iff_eq.mpr hc)]
    · rw [if_neg hc, if_neg (mt beq_iff_eq.mp hc)]
      cases hrest : pieces rest with
      | nil => exact absurd hrest (pieces_ne_nil rest)
      | cons piece more => rfl

theorem intercalate_pieces (s : List Char) : [','].intercalate (pieces s) = s := by
  rw [pieces_eq_splitOn, List.intercalate_splitOn]

theorem pieces_intercalate {texts : List (List Char)} (hne : texts ≠ [])
    (hcomma : ∀ piece ∈ texts, ',' ∉ piece) : pieces ([','].intercalate texts) = texts := by
  rw [pieces_eq_splitOn, List.splitOn_intercalate ',' hcomma hne]

def hostsIn (texts : List (List Char)) : List String :=
  ((texts.map trim).filter (· ≠ [])).map String.ofList

theorem hostsIn_cons_of_blank {piece : List Char} (hpiece : trim piece = [])
    (texts : List (List Char)) : hostsIn (piece :: texts) = hostsIn texts := by
  simp [hostsIn, hpiece]

theorem hostsIn_cons_of_ne_nil {piece : List Char} (hpiece : trim piece ≠ [])
    (texts : List (List Char)) :
    hostsIn (piece :: texts) = String.ofList (trim piece) :: hostsIn texts := by
  simp [hostsIn, hpiece]

theorem isHost_trim {piece : List Char} (hne : trim piece ≠ []) (hcomma : ',' ∉ piece) :
    IsHost (String.ofList (trim piece)) := by
  obtain ⟨before, after, -, -, hpiece⟩ := exists_eq_append_trim piece
  refine ⟨?_, ?_, ?_, ?_⟩ <;> rw [String.toList_ofList]
  · exact hne
  · exact isBlank_of_head?_trim piece
  · exact isBlank_of_getLast?_trim piece
  · intro hmem
    apply hcomma
    rw [hpiece]
    exact List.mem_append_right _ (List.mem_append_left _ hmem)

theorem hold_hostsIn {texts : List (List Char)} (hcomma : ∀ piece ∈ texts, ',' ∉ piece) :
    Hold texts (hostsIn texts) := by
  induction texts with
  | nil => exact .nil
  | cons piece texts ih =>
    obtain ⟨hpiece, htexts⟩ := List.forall_mem_cons.mp hcomma
    by_cases hne : trim piece = []
    · rw [hostsIn_cons_of_blank hne]
      exact .blank (trim_eq_nil_iff.mp hne) (ih htexts)
    · rw [hostsIn_cons_of_ne_nil hne]
      obtain ⟨before, after, hbefore, hafter, hsplit⟩ := exists_eq_append_trim piece
      have hhost := isHost_trim hne hpiece
      have hhold := Hold.host hhost hbefore hafter (ih htexts)
      rw [String.toList_ofList, ← hsplit] at hhold
      exact hhold

namespace Hold

variable {texts : List (List Char)} {hosts : List String}

theorem comma_notMem (h : Hold texts hosts) : ∀ piece ∈ texts, ',' ∉ piece := by
  have hcomma : ∀ s : List Char, (∀ c ∈ s, isBlank c = true) → ',' ∉ s := by
    intro s hs hmem
    exact absurd (hs ',' hmem) (by decide)
  induction h with
  | nil => exact List.forall_mem_nil _
  | blank hpiece _ ih => exact List.forall_mem_cons.mpr ⟨hcomma _ hpiece, ih⟩
  | host hhost hbefore hafter _ ih =>
    refine List.forall_mem_cons.mpr ⟨?_, ih⟩
    simp only [List.mem_append, not_or]
    exact ⟨hcomma _ hbefore, hhost.comma_notMem, hcomma _ hafter⟩

theorem isHost_of_mem (h : Hold texts hosts) : ∀ host ∈ hosts, IsHost host := by
  induction h with
  | nil => exact List.forall_mem_nil _
  | blank _ _ ih => exact ih
  | host hhost _ _ _ ih => exact List.forall_mem_cons.mpr ⟨hhost, ih⟩

theorem hostsIn_eq (h : Hold texts hosts) : hostsIn texts = hosts := by
  induction h with
  | nil => rfl
  | blank hpiece _ ih => rw [hostsIn_cons_of_blank (trim_eq_nil_iff.mpr hpiece), ih]
  | @host before after host _ _ hhost hbefore hafter _ ih =>
    have htrim : trim (before ++ (host.toList ++ after)) = host.toList :=
      (trim_append hbefore hafter hhost.toList_ne_nil hhost.isBlank_head).trans
        (trim_eq_self hhost.isBlank_head hhost.isBlank_getLast)
    have hne : trim (before ++ (host.toList ++ after)) ≠ [] := by
      rw [htrim]
      exact hhost.toList_ne_nil
    rw [hostsIn_cons_of_ne_nil hne, htrim, String.ofList_toList, ih]

end Hold

/-! ## Texts -/

/-- Reading a text finds the hosts that it lists, and each text lists what is read in it. -/
theorem decode_eq_iff_lists {text : String} {hosts : List String} :
    decode text = hosts ↔ Lists text hosts := by
  constructor
  · rintro rfl
    exact ⟨pieces text.toList, hold_hostsIn fun _ ↦ comma_notMem_of_mem_pieces,
      (intercalate_pieces text.toList).symm⟩
  · rintro ⟨texts, hhold, htext⟩
    by_cases hne : texts = []
    · subst hne
      cases hhold with
      | nil =>
        rw [decode, htext]
        rfl
    · calc
        decode text = hostsIn (pieces text.toList) := rfl
        _ = hostsIn texts := by rw [htext, pieces_intercalate hne hhold.comma_notMem]
        _ = hosts := hhold.hostsIn_eq

theorem isHost_of_mem_decode (text : String) : ∀ host ∈ decode text, IsHost host := by
  obtain ⟨_, hhold, -⟩ := decode_eq_iff_lists.mp (Eq.refl (decode text))
  exact hhold.isHost_of_mem

theorem lists_encode {hosts : List String} (h : ∀ host ∈ hosts, IsHost host) :
    Lists (encode hosts) hosts := by
  refine ⟨hosts.map String.toList, ?_, String.toList_intercalate⟩
  induction hosts with
  | nil => exact .nil
  | cons host hosts ih =>
    obtain ⟨hhost, hrest⟩ := List.forall_mem_cons.mp h
    have hnone : ∀ c ∈ ([] : List Char), isBlank c = true := List.forall_mem_nil _
    have hhold := Hold.host hhost hnone hnone (ih hrest)
    rw [List.nil_append, List.append_nil] at hhold
    exact hhold

end HostList

namespace Configuration

/-- Whether a configuration gives a text for the hosts of blocks. -/
def GivesHosts (c : Configuration) (text : String) : Prop :=
  c.get? Setting.blockHosts.key = some (.text text)

theorem blockHosts_of_givesHosts {c : Configuration} {text : String} (h : c.GivesHosts text)
    (fallback : Option String) : c.blockHosts fallback = .ok (HostList.decode text) := by
  have hread : c.read .blockHosts (fallback.map .text) = .ok (.text text) :=
    read_of_get?_eq_some h Value.noConfusion _
  unfold blockHosts readText
  rw [bind_of_eq_ok hread]
  rfl

/-- **Hosts are read as they are listed.** What is read in a text are hosts that it lists in this
order, and whatever hosts a text lists, however it is padded, are read in it. So hosts with nothing
but commas between them are read again. -/
theorem blockHosts_lists (fallback : Option String) :
    (∀ (c : Configuration) (text : String), c.GivesHosts text →
      ∃ hosts, c.blockHosts fallback = .ok hosts ∧ (∀ host ∈ hosts, HostList.IsHost host) ∧
        HostList.Lists text hosts) ∧
    (∀ (c : Configuration) (text : String) (hosts : List String), c.GivesHosts text →
      HostList.Lists text hosts → c.blockHosts fallback = .ok hosts) ∧
    (∀ (c : Configuration) (hosts : List String), (∀ host ∈ hosts, HostList.IsHost host) →
      c.GivesHosts (HostList.encode hosts) → c.blockHosts fallback = .ok hosts) ∧
    ∀ (c c' : Configuration) (text : String) (hosts : List String), c.GivesHosts text →
      c.blockHosts fallback = .ok hosts → c'.GivesHosts (HostList.encode hosts) →
        c'.blockHosts fallback = .ok hosts := by
  have hlisted : ∀ (c : Configuration) (text : String) (hosts : List String), c.GivesHosts text →
      HostList.Lists text hosts → c.blockHosts fallback = .ok hosts := by
    intro c text hosts hgives hlists
    rw [blockHosts_of_givesHosts hgives, HostList.decode_eq_iff_lists.mpr hlists]
  have hencoded : ∀ (c : Configuration) (hosts : List String),
      (∀ host ∈ hosts, HostList.IsHost host) → c.GivesHosts (HostList.encode hosts) →
        c.blockHosts fallback = .ok hosts :=
    fun c hosts hhosts hgives ↦ hlisted c _ hosts hgives (HostList.lists_encode hhosts)
  refine ⟨?read, hlisted, hencoded, ?again⟩
  case read =>
    intro c text hgives
    exact ⟨_, blockHosts_of_givesHosts hgives fallback, HostList.isHost_of_mem_decode text,
      HostList.decode_eq_iff_lists.mp rfl⟩
  case again =>
    intro c c' text hosts hgives hread hgives'
    rw [blockHosts_of_givesHosts hgives] at hread
    obtain rfl := Except.ok.inj hread
    exact hencoded c' _ (HostList.isHost_of_mem_decode text) hgives'

/-- Blanks of several kinds, a piece of blanks, an empty piece, and a host with a blank inside. -/
theorem blockHosts_lists_padded :
    let text := "\u3000dn1, ,,dn 2\t"
    let c : Configuration := Dictionary.insert ∅ "fs.block.hosts" (.text text)
    let c' : Configuration := Dictionary.insert ∅ "fs.block.hosts" (.text "dn1,dn 2")
    c.GivesHosts text ∧ HostList.Lists text ["dn1", "dn 2"] ∧
      c.blockHosts none = .ok ["dn1", "dn 2"] ∧
      c'.GivesHosts (HostList.encode ["dn1", "dn 2"]) ∧ c'.blockHosts none = .ok ["dn1", "dn 2"] := by
  intro text c c'
  have hgives : c.GivesHosts text := rfl
  have hlists : HostList.Lists text ["dn1", "dn 2"] :=
    HostList.decode_eq_iff_lists.mp (by decide +kernel)
  have hread : c.blockHosts none = .ok ["dn1", "dn 2"] :=
    (blockHosts_lists none).2.1 c text _ hgives hlists
  have hgives' : c'.GivesHosts (HostList.encode ["dn1", "dn 2"]) := rfl
  exact ⟨hgives, hlists, hread, hgives',
    (blockHosts_lists none).2.2.2 c c' text _ hgives hread hgives'⟩

end Configuration

end SplitPlanning
