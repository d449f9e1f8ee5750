import VmCell.Core.RunSelection
import VmCell.Interaction.Results

/-! Which plans are resolved, and that they do not depend on the order of the evidence.

Each variant adds its own candidates and its own reasons, whatever came before it. The
reasons matter only where no variant has a candidate.
-/

set_option autoImplicit false
namespace VmCell

open Interaction

section Evidence
variable {probe : ProviderProbe} {probes others : List ProviderProbe} {seen : List ProviderId}

theorem providerId_asStr (provider : ProviderId) : providerId provider.asStr = some provider := by
  cases provider <;> rfl

theorem asStr_of_providerId {name : String} {provider : ProviderId}
    (known : providerId name = some provider) : name = provider.asStr := by
  unfold providerId at known
  split at known
  · obtain rfl := Option.some.inj known
    rfl
  · obtain rfl := Option.some.inj known
    rfl
  · cases known

/-- A probe that does not contradict itself. -/
structure Sound (probe : ProviderProbe) (provider : ProviderId) : Prop where
  known : providerId probe.name = some provider
  available : probe.available = decide (probe.status = .ready)
  unready : probe.status ≠ .ready → probe.capabilities = .unavailable
  ready : probe.status = .ready → capabilitiesContradict provider probe.capabilities = false

theorem validateProbeSnapshot_ok {result : List ProviderId} :
    validateProbeSnapshot seen probe = .ok result ↔
      ∃ provider, Sound probe provider ∧ provider ∉ seen ∧ result = provider :: seen := by
  unfold validateProbeSnapshot
  cases known : providerId probe.name with
  | none =>
      constructor
      · intro absurd
        cases absurd
      · rintro ⟨provider, sound, _⟩
        cases known.symm.trans sound.known
  | some provider =>
      simp only
      constructor
      · intro passes
        split at passes
        · cases passes
        · rename_i clear
          rw [Bool.not_eq_true, Bool.or_eq_false_iff] at clear
          have fresh : provider ∉ seen := by simpa using clear.1
          have available : probe.available = decide (probe.status = .ready) := by
            simpa using clear.2
          split at passes
          · rename_i unready
            split at passes
            · cases passes
            · rename_i same
              exact ⟨provider, ⟨known, available, fun _ => not_not.mp same,
                fun ready => absurd ready unready⟩, fresh, (Except.ok.inj passes).symm⟩
          · rename_i ready
            split at passes
            · cases passes
            · rename_i consistent
              exact ⟨provider, ⟨known, available, fun unready => absurd unready ready,
                fun _ => Bool.not_eq_true _ ▸ consistent⟩, fresh, (Except.ok.inj passes).symm⟩
      · rintro ⟨other, sound, fresh, rfl⟩
        obtain rfl := Option.some.inj (known.symm.trans sound.known)
        have clear : (seen.contains provider ||
            probe.available != decide (probe.status = .ready)) = false := by
          rw [Bool.or_eq_false_iff]
          exact ⟨by simpa using fresh, by simp [sound.available]⟩
        rw [clear, if_neg Bool.false_ne_true]
        by_cases ready : probe.status = .ready
        · rw [if_neg (not_not.mpr ready), sound.ready ready, if_neg Bool.false_ne_true]
        · rw [if_pos ready, if_neg (not_not.mpr (sound.unready ready))]

theorem validateProbeSnapshot_error {error : RunSelectionError}
    (fails : validateProbeSnapshot seen probe = .error error) :
    error = .contradictoryCapabilityEvidence := by
  unfold validateProbeSnapshot at fails
  split at fails
  · exact (Except.error.inj fails).symm
  · split at fails
    · exact (Except.error.inj fails).symm
    · split at fails
      · split at fails
        · exact (Except.error.inj fails).symm
        · cases fails
      · split at fails
        · exact (Except.error.inj fails).symm
        · cases fails

/-- Probes of different providers that do not contradict themselves. -/
structure Evidence (probes : List ProviderProbe) : Prop where
  sound : ∀ probe ∈ probes, ∃ provider, Sound probe provider
  distinct : (probes.map (·.name)).Nodup

theorem foldlM_validateProbeSnapshot :
    (∃ result, probes.foldlM validateProbeSnapshot seen = .ok result) ↔
      Evidence probes ∧ ∀ probe ∈ probes, ∀ provider ∈ seen, probe.name ≠ provider.asStr := by
  induction probes generalizing seen with
  | nil =>
      refine ⟨fun _ => ⟨⟨by simp, List.nodup_nil⟩, by simp⟩, fun _ => ⟨seen, rfl⟩⟩
  | cons probe probes ih =>
      rw [List.foldlM_cons]
      constructor
      · rintro ⟨result, passes⟩
        obtain ⟨next, first, rest⟩ := bind_ok.mp passes
        obtain ⟨provider, sound, fresh, rfl⟩ := validateProbeSnapshot_ok.mp first
        obtain ⟨evidence, apart⟩ := ih.mp ⟨result, rest⟩
        have name := asStr_of_providerId sound.known
        refine ⟨⟨?_, ?_⟩, ?_⟩
        · intro other member
          rcases List.mem_cons.mp member with rfl | later
          · exact ⟨provider, sound⟩
          · exact evidence.sound other later
        · rw [List.map_cons, List.nodup_cons]
          refine ⟨fun member => ?_, evidence.distinct⟩
          obtain ⟨other, later, same⟩ := List.mem_map.mp member
          exact apart other later provider List.mem_cons_self (same.trans name)
        · intro other member known before
          rcases List.mem_cons.mp member with rfl | later
          · rw [name]
            intro same
            have equal := congrArg providerId same
            rw [providerId_asStr, providerId_asStr] at equal
            exact fresh (Option.some.inj equal ▸ before)
          · exact apart other later known (List.mem_cons_of_mem _ before)
      · rintro ⟨evidence, apart⟩
        obtain ⟨provider, sound⟩ := evidence.sound probe List.mem_cons_self
        have name := asStr_of_providerId sound.known
        have fresh : provider ∉ seen := fun before =>
          apart probe List.mem_cons_self provider before name
        have first := validateProbeSnapshot_ok.mpr ⟨provider, sound, fresh, rfl⟩
        have distinct := List.nodup_cons.mp evidence.distinct
        obtain ⟨result, rest⟩ := (@ih (provider :: seen)).mpr ⟨⟨fun other later =>
          evidence.sound other (List.mem_cons_of_mem _ later), distinct.2⟩, by
            intro other later known before
            rcases List.mem_cons.mp before with rfl | early
            · intro same
              exact distinct.1 (List.mem_map.mpr ⟨other, later, same.trans name.symm⟩)
            · exact apart other (List.mem_cons_of_mem _ later) known early⟩
        exact ⟨result, bind_ok.mpr ⟨_, first, rest⟩⟩

theorem validateProbeSnapshots_ok : validateProbeSnapshots probes = .ok () ↔ Evidence probes := by
  unfold validateProbeSnapshots
  rw [bind_ok]
  constructor
  · rintro ⟨result, passes, _⟩
    exact (foldlM_validateProbeSnapshot.mp ⟨result, passes⟩).1
  · intro evidence
    obtain ⟨result, passes⟩ := (@foldlM_validateProbeSnapshot probes []).mpr ⟨evidence, by simp⟩
    exact ⟨result, passes, rfl⟩

theorem validateProbeSnapshots_error {error : RunSelectionError}
    (fails : validateProbeSnapshots probes = .error error) :
    error = .contradictoryCapabilityEvidence := by
  have folds : ∀ seen, probes.foldlM validateProbeSnapshot seen = .error error →
      error = .contradictoryCapabilityEvidence := by
    clear fails
    induction probes with
    | nil =>
        intro seen fails
        cases fails
    | cons probe probes ih =>
        intro seen fails
        rw [List.foldlM_cons] at fails
        cases first : validateProbeSnapshot seen probe with
        | error other =>
            rw [first] at fails
            obtain rfl := Except.error.inj fails
            exact validateProbeSnapshot_error first
        | ok next =>
            rw [first] at fails
            exact ih next fails
  unfold validateProbeSnapshots at fails
  cases result : probes.foldlM validateProbeSnapshot [] with
  | error other =>
      rw [result] at fails
      obtain rfl := Except.error.inj fails
      exact folds [] result
  | ok next =>
      rw [result] at fails
      cases fails

theorem Evidence.perm (same : probes.Perm others) (evidence : Evidence probes) :
    Evidence others where
  sound probe member := evidence.sound probe (same.mem_iff.mpr member)
  distinct := (same.map _).nodup_iff.mp evidence.distinct

/-- The order of the probes does not matter to their check. -/
theorem validateProbeSnapshots_perm (same : probes.Perm others) :
    validateProbeSnapshots probes = validateProbeSnapshots others := by
  cases left : validateProbeSnapshots probes with
  | ok _ =>
      exact (validateProbeSnapshots_ok.mpr
        ((validateProbeSnapshots_ok.mp left).perm same)).symm
  | error error =>
      cases right : validateProbeSnapshots others with
      | ok _ =>
          have evidence := (validateProbeSnapshots_ok.mp right).perm same.symm
          cases left.symm.trans (validateProbeSnapshots_ok.mpr evidence)
      | error other =>
          rw [validateProbeSnapshots_error left, validateProbeSnapshots_error right]

theorem find_name (evidence : Evidence probes) {name : String} :
    probes.find? (·.name == name) = some probe ↔ probe ∈ probes ∧ probe.name = name := by
  constructor
  · intro found
    exact ⟨List.mem_of_find?_eq_some found, by simpa using List.find?_some found⟩
  · rintro ⟨member, rfl⟩
    cases found : probes.find? (·.name == probe.name) with
    | none => simpa using List.find?_eq_none.mp found probe member
    | some other =>
        have same : other.name = probe.name := by simpa using List.find?_some found
        rw [List.inj_on_of_nodup_map evidence.distinct (List.mem_of_find?_eq_some found) member same]

/-- Nor does it matter to the search for a name. -/
theorem find_name_perm (same : probes.Perm others) (evidence : Evidence probes) (name : String) :
    probes.find? (·.name == name) = others.find? (·.name == name) := by
  ext probe
  rw [find_name evidence, find_name (evidence.perm same), same.mem_iff]

end Evidence

section Variants
variable {variants others : List ImageVariant} {seen : List ProviderId}

/-- Variants of different known providers. -/
structure Distinct (variants : List ImageVariant) : Prop where
  known : ∀ variant ∈ variants, ∃ provider, providerId variant.provider = some provider
  distinct : (variants.map (·.provider)).Nodup

theorem foldlM_distinctVariant :
    (∃ result, variants.foldlM distinctVariant seen = .ok result) ↔
      Distinct variants ∧ ∀ variant ∈ variants, ∀ provider ∈ seen,
        variant.provider ≠ provider.asStr := by
  induction variants generalizing seen with
  | nil => exact ⟨fun _ => ⟨⟨by simp, List.nodup_nil⟩, by simp⟩, fun _ => ⟨seen, rfl⟩⟩
  | cons variant variants ih =>
      rw [List.foldlM_cons]
      constructor
      · rintro ⟨result, passes⟩
        obtain ⟨next, first, rest⟩ := bind_ok.mp passes
        obtain ⟨distinct, apart⟩ := ih.mp ⟨result, rest⟩
        unfold distinctVariant at first
        cases known : providerId variant.provider with
        | none =>
            rw [known] at first
            cases first
        | some provider =>
            rw [known] at first
            simp only at first
            split at first
            · cases first
            · rename_i fresh
              obtain rfl := Except.ok.inj first
              have name := asStr_of_providerId known
              refine ⟨⟨?_, ?_⟩, ?_⟩
              · intro other member
                rcases List.mem_cons.mp member with rfl | later
                · exact ⟨provider, known⟩
                · exact distinct.known other later
              · rw [List.map_cons, List.nodup_cons]
                refine ⟨fun member => ?_, distinct.distinct⟩
                obtain ⟨other, later, same⟩ := List.mem_map.mp member
                exact apart other later provider List.mem_cons_self (same.trans name)
              · intro other member before early
                rcases List.mem_cons.mp member with rfl | later
                · intro same
                  have equal := known.symm.trans ((congrArg providerId same).trans
                    (providerId_asStr before))
                  rw [Option.some.inj equal] at fresh
                  simp [early] at fresh
                · exact apart other later before (List.mem_cons_of_mem _ early)
      · rintro ⟨distinct, apart⟩
        obtain ⟨provider, known⟩ := distinct.known variant List.mem_cons_self
        have name := asStr_of_providerId known
        have fresh : provider ∉ seen := fun before =>
          apart variant List.mem_cons_self provider before name
        have first : distinctVariant seen variant = .ok (provider :: seen) := by
          unfold distinctVariant
          rw [known]
          simp [fresh]
        have nodup := List.nodup_cons.mp distinct.distinct
        obtain ⟨result, rest⟩ := (@ih (provider :: seen)).mpr ⟨⟨fun other later =>
          distinct.known other (List.mem_cons_of_mem _ later), nodup.2⟩, by
            intro other later before early
            rcases List.mem_cons.mp early with rfl | early
            · intro same
              exact nodup.1 (List.mem_map.mpr ⟨other, later, same.trans name.symm⟩)
            · exact apart other (List.mem_cons_of_mem _ later) before early⟩
        exact ⟨result, bind_ok.mpr ⟨_, first, rest⟩⟩

theorem distinctVariants_ok :
    (∃ result, variants.foldlM distinctVariant [] = .ok result) ↔ Distinct variants := by
  rw [foldlM_distinctVariant]
  exact ⟨fun passes => passes.1, fun distinct => ⟨distinct, by simp⟩⟩

theorem Distinct.perm (same : variants.Perm others) (distinct : Distinct variants) :
    Distinct others where
  known variant member := distinct.known variant (same.mem_iff.mpr member)
  distinct := (same.map _).nodup_iff.mp distinct.distinct

end Variants

section Contributions

def Rejections.merge (first second : Rejections) : Rejections :=
  ⟨first.providerUnavailable || second.providerUnavailable,
    first.acceleratorUnavailable || second.acceleratorUnavailable,
    first.architectureMismatch || second.architectureMismatch,
    first.transportUnsupported || second.transportUnsupported,
    first.undocumented || second.undocumented, first.unsupported || second.unsupported⟩

theorem Rejections.merge_assoc (a b c : Rejections) : (a.merge b).merge c = a.merge (b.merge c) := by
  simp only [Rejections.merge, Bool.or_assoc]

theorem Rejections.merge_comm (a b : Rejections) : a.merge b = b.merge a := by
  simp only [Rejections.merge, Bool.or_comm]

@[simp] theorem Rejections.merge_none (a : Rejections) : a.merge .none = a := by
  simp only [Rejections.merge, Rejections.none, Bool.or_false]

@[simp] theorem Rejections.none_merge (a : Rejections) : Rejections.none.merge a = a := by
  rw [Rejections.merge_comm, Rejections.merge_none]

/-- A part of the selection adds candidates, and reasons as far as they matter. -/
structure Adds (state added result : Selection) : Prop where
  candidates : result.candidates = state.candidates ++ added.candidates
  rejected : result.candidates = [] → result.rejected = state.rejected.merge added.rejected

theorem Adds.same (state : Selection) : Adds state ⟨[], .none, false⟩ state where
  candidates := (List.append_nil _).symm
  rejected _ := (Rejections.merge_none _).symm

variable {host : HostPlatform} {image : ImageRecord} {probes : List ProviderProbe}
  {intent : RunSelectionIntent} {matrix : List SupportMatrixEntry}
  {provider : ProviderId} {probe : ProviderProbe} {rows : List SupportMatrixEntry}
  {variant : ImageVariant} {state : Selection}

/-- A row that makes a candidate. -/
def usable (probe : ProviderProbe) (entry : SupportMatrixEntry) : Bool :=
  decide (entry.status ≠ .unsupported) &&
    (probe.capabilities.guestTransports.any (· == entry.key.guestTransport.asStr) &&
      probe.capabilities.networklessGuestExec)

/-- The reasons of the rows. -/
def rowReasons (probe : ProviderProbe) (rows : List SupportMatrixEntry) : Rejections where
  providerUnavailable := false
  acceleratorUnavailable := false
  architectureMismatch := false
  transportUnsupported := rows.any fun entry =>
    decide (entry.status ≠ .unsupported) && !usable probe entry
  undocumented := false
  unsupported := rows.any fun entry => decide (entry.status = .unsupported)

theorem foldl_considerRow : rows.foldl (considerRow host image intent provider probe) state =
    ⟨state.candidates ++ (rows.filter (usable probe)).map (candidate host image intent provider),
      state.rejected.merge (rowReasons probe rows),
      state.selectableRow || rows.any fun entry => decide (entry.status ≠ .unsupported)⟩ := by
  induction rows generalizing state with
  | nil => simp [rowReasons, Rejections.merge]
  | cons entry rows ih =>
      rw [List.foldl_cons, ih]
      by_cases unsupported : entry.status = .unsupported
      · simp [considerRow, usable, rowReasons, Rejections.merge, unsupported]
      · cases transport : probe.capabilities.guestTransports.any
            (· == entry.key.guestTransport.asStr) with
        | false =>
            simp [considerRow, usable, rowReasons, Rejections.merge, unsupported, transport]
        | true =>
            cases networkless : probe.capabilities.networklessGuestExec with
            | false =>
                simp [considerRow, usable, rowReasons, Rejections.merge, unsupported, transport,
                  networkless]
            | true =>
                simp [considerRow, usable, rowReasons, Rejections.merge, unsupported, transport,
                  networkless]

/-- What a ready provider adds. -/
def rowsAdded (host : HostPlatform) (image : ImageRecord) (intent : RunSelectionIntent)
    (matrix : List SupportMatrixEntry) (provider : ProviderId) (probe : ProviderProbe) :
    Selection :=
  considerRows host image intent matrix provider probe ⟨[], .none, false⟩

theorem considerRows_adds : Adds state (rowsAdded host image intent matrix provider probe)
    (considerRows host image intent matrix provider probe state) := by
  unfold rowsAdded considerRows
  by_cases none : matrix.filter (matchesRow host image intent provider) = []
  · simp only [if_pos none]
    exact ⟨(List.append_nil _).symm, fun _ => by simp [Rejections.merge, Rejections.none]⟩
  · simp only [if_neg none, foldl_considerRow, Bool.false_or]
    generalize matrix.filter (matchesRow host image intent provider) = rows
    cases selectable : rows.any fun entry => decide (entry.status ≠ .unsupported) with
    | false =>
        simp only [Bool.false_and, Bool.false_eq_true, if_false, List.nil_append]
        exact ⟨rfl, fun _ => by rw [Rejections.none_merge]⟩
    | true =>
        simp only [Bool.true_and, List.nil_append]
        generalize (rows.filter (usable probe)).map (candidate host image intent provider) = new
        cases new with
        | nil =>
            cases before : state.candidates with
            | nil =>
                simp only [List.append_nil, List.isEmpty_nil, if_true]
                exact ⟨by simp [before], fun _ => by simp [Rejections.merge, Rejections.none]⟩
            | cons first others =>
                simp only [List.append_nil, List.isEmpty_nil, List.isEmpty_cons, if_true,
                  Bool.false_eq_true, if_false]
                exact ⟨by simp [before], fun empty => by cases empty⟩
        | cons first others =>
            have nonempty : (state.candidates ++ first :: others).isEmpty = false := by simp
            simp only [nonempty, List.isEmpty_cons, Bool.false_eq_true, if_false]
            exact ⟨rfl, fun empty => by simp at empty⟩

/-- Why a variant is a candidate with a row of the contract. -/
structure Eligible (host : HostPlatform) (image : ImageRecord) (probes : List ProviderProbe)
    (intent : RunSelectionIntent) (matrix : List SupportMatrixEntry) (variant : ImageVariant)
    (provider : ProviderId) (probe : ProviderProbe) (entry : SupportMatrixEntry) : Prop where
  known : providerId variant.provider = some provider
  selected : ∀ other, selectedProvider intent = some other → other = provider
  native : image.guestArch = host.architecture
  found : probes.find? (·.name == provider.asStr) = some probe
  ready : probe.status = .ready
  available : probe.available = true
  guestOs : probe.capabilities.guestOs.any (· == guestOsName image.guestOs) = true
  guestArch : probe.capabilities.guestArch.any (· == architectureName image.guestArch) = true
  accelerator : probe.capabilities.accelerators.any
    (· == (acceleratorFor host intent provider).asStr) = true
  listed : entry ∈ matrix
  row : matchesRow host image intent provider entry = true
  supported : entry.status ≠ .unsupported
  transport : probe.capabilities.guestTransports.any (· == entry.key.guestTransport.asStr) = true
  networkless : probe.capabilities.networklessGuestExec = true

theorem rowsAdded_candidates {choice : Nat × RunExecutionPlan}
    (member : choice ∈ (rowsAdded host image intent matrix provider probe).candidates) :
    ∃ entry ∈ matrix.filter (matchesRow host image intent provider), usable probe entry = true ∧
      choice = candidate host image intent provider entry := by
  unfold rowsAdded considerRows at member
  simp only [foldl_considerRow, List.nil_append] at member
  have within : choice ∈ ((matrix.filter (matchesRow host image intent provider)).filter
      (usable probe)).map (candidate host image intent provider) := by
    split at member
    · cases member
    · split at member
      · exact member
      · exact member
  obtain ⟨entry, chosen, rfl⟩ := List.mem_map.mp within
  obtain ⟨listed, fits⟩ := List.mem_filter.mp chosen
  exact ⟨entry, listed, fits, rfl⟩

/-- What a variant of a known provider adds, whatever came before it. -/
theorem considerVariant_adds (known : providerId variant.provider = some provider) :
    ∃ added : Selection,
      (∀ choice ∈ added.candidates, ∃ probe entry,
        Eligible host image probes intent matrix variant provider probe entry ∧
          choice = candidate host image intent provider entry) ∧
      ∀ state, ∃ result,
        considerVariant host image probes intent matrix state variant = .ok result ∧
          Adds state added result := by
  unfold considerVariant
  simp only [known]
  -- A variant that is passed over, with a reason or without one.
  have passed : ∀ reasons : Rejections, ∀ state : Selection,
      Adds state ⟨[], reasons, false⟩ { state with rejected := state.rejected.merge reasons } :=
    fun reasons state => ⟨(List.append_nil _).symm, fun _ => rfl⟩
  by_cases other : (selectedProvider intent).any (· != provider) = true
  · exact ⟨⟨[], .none, false⟩, by simp, fun state => ⟨state, by rw [if_pos other], Adds.same state⟩⟩
  · simp only [if_neg other]
    by_cases native : image.guestArch = host.architecture
    · simp only [if_neg (not_not.mpr native)]
      cases found : probes.find? (·.name == provider.asStr) with
      | none =>
          refine ⟨⟨[], ⟨true, false, false, false, false, false⟩, false⟩, by simp, fun state =>
            ⟨_, rfl, ?_⟩⟩
          simpa [Rejections.merge] using passed ⟨true, false, false, false, false, false⟩ state
      | some probe =>
          simp only
          by_cases unready : (decide (probe.status ≠ .ready) || !probe.available) = true
          · refine ⟨⟨[], ⟨true, false, false, false, false, false⟩, false⟩, by simp, fun state =>
              ⟨_, by rw [if_pos unready], ?_⟩⟩
            simpa [Rejections.merge] using passed ⟨true, false, false, false, false, false⟩ state
          · simp only [if_neg unready]
            by_cases guestOs : probe.capabilities.guestOs.any (· == guestOsName image.guestOs) = true
            · simp only [guestOs, Bool.not_true, Bool.false_eq_true, if_false]
              by_cases guestArch :
                  probe.capabilities.guestArch.any (· == architectureName image.guestArch) = true
              · simp only [guestArch, Bool.not_true, Bool.false_eq_true, if_false]
                by_cases accelerator : probe.capabilities.accelerators.any
                    (· == (acceleratorFor host intent provider).asStr) = true
                · simp only [accelerator, Bool.not_true, Bool.false_eq_true, if_false]
                  refine ⟨rowsAdded host image intent matrix provider probe, ?_, fun state =>
                    ⟨_, rfl, considerRows_adds⟩⟩
                  intro choice member
                  obtain ⟨entry, matching, fits, rfl⟩ := rowsAdded_candidates member
                  obtain ⟨listed, row⟩ := List.mem_filter.mp matching
                  simp only [usable, Bool.and_eq_true, decide_eq_true_eq] at fits
                  simp only [Bool.or_eq_true, decide_eq_true_eq, Bool.not_eq_true', not_or,
                    not_not, Bool.not_eq_false] at unready
                  refine ⟨probe, entry, ⟨known, ?_, native, found, unready.1, unready.2, guestOs,
                    guestArch, accelerator, listed, row, fits.1, fits.2.1, fits.2.2⟩, rfl⟩
                  intro chosen selected
                  rw [selected] at other
                  simpa using other
                · rw [Bool.not_eq_true] at accelerator
                  simp only [accelerator, Bool.not_false, if_true]
                  refine ⟨⟨[], ⟨false, true, false, false, false, false⟩, false⟩, by simp,
                    fun state => ⟨_, rfl, ?_⟩⟩
                  simpa [Rejections.merge] using
                    passed ⟨false, true, false, false, false, false⟩ state
              · rw [Bool.not_eq_true] at guestArch
                simp only [guestArch, Bool.not_false, if_true]
                refine ⟨⟨[], ⟨false, false, true, false, false, false⟩, false⟩, by simp,
                  fun state => ⟨_, rfl, ?_⟩⟩
                simpa [Rejections.merge] using
                  passed ⟨false, false, true, false, false, false⟩ state
            · rw [Bool.not_eq_true] at guestOs
              simp only [guestOs, Bool.not_false, if_true]
              exact ⟨⟨[], .none, false⟩, by simp, fun state => ⟨state, rfl, Adds.same state⟩⟩
    · refine ⟨⟨[], ⟨false, false, true, false, false, false⟩, false⟩, by simp, fun state =>
        ⟨_, by rw [if_pos native], ?_⟩⟩
      simpa [Rejections.merge] using passed ⟨false, false, true, false, false, false⟩ state

end Contributions

section Choosing
variable {first second : List (Nat × RunExecutionPlan)} {reasons others : Rejections}
  {plan : RunExecutionPlan}

theorem mergeSort_least {best : Nat × RunExecutionPlan} {rest : List (Nat × RunExecutionPlan)}
    (sorted : first.mergeSort (fun a b => a.1 ≤ b.1) = best :: rest) :
    ∀ choice ∈ first, best.1 ≤ choice.1 := by
  have ordered := @List.pairwise_mergeSort _ (fun a b : Nat × RunExecutionPlan => a.1 ≤ b.1)
    (fun a b c => by simpa using Nat.le_trans) (fun a b => by simpa using Nat.le_total a.1 b.1) first
  rw [sorted] at ordered
  intro choice member
  have within : choice ∈ best :: rest := by
    rw [← sorted]
    exact List.mem_mergeSort.mpr member
  rcases List.mem_cons.mp within with rfl | later
  · exact Nat.le_refl _
  · simpa using (List.pairwise_cons.mp ordered).1 choice later

/-- The choice depends on the candidates as a whole, not on their order. -/
theorem choose_perm (same : first.Perm second) (empty : first = [] → reasons = others) :
    choose reasons first = choose others second := by
  have firstSorted := List.mergeSort_perm first (fun a b => a.1 ≤ b.1)
  have secondSorted := List.mergeSort_perm second (fun a b => a.1 ≤ b.1)
  have permuted := firstSorted.trans (same.trans secondSorted.symm)
  unfold choose
  cases one : first.mergeSort (fun a b => a.1 ≤ b.1) with
  | nil =>
      rw [one] at permuted firstSorted
      rw [List.nil_perm.mp permuted, empty (List.nil_perm.mp firstSorted)]
  | cons best rest =>
      cases two : second.mergeSort (fun a b => a.1 ≤ b.1) with
      | nil =>
          rw [one, two] at permuted
          cases List.perm_nil.mp permuted
      | cons other rest' =>
          rw [one, two] at permuted
          rw [one] at firstSorted
          rw [two] at secondSorted
          have rank : best.1 = other.1 := by
            apply Nat.le_antisymm
            · exact mergeSort_least one other (same.mem_iff.mpr
                (secondSorted.mem_iff.mp List.mem_cons_self))
            · exact mergeSort_least two best (same.mem_iff.mp
                (firstSorted.mem_iff.mp List.mem_cons_self))
          have filtered := permuted.filter fun choice => decide (choice.1 = best.1)
          simp only [← rank, filtered.length_eq]
          split
          · rfl
          · rename_i single
            -- The only candidate of the best rank stands first in both orders.
            obtain ⟨only, alone⟩ := List.length_eq_one_iff.mp (not_not.mp single)
            have mine : best ∈ (other :: rest').filter fun choice => decide (choice.1 = best.1) :=
              filtered.mem_iff.mp (List.mem_filter.mpr ⟨List.mem_cons_self, by simp⟩)
            have its : other ∈ (other :: rest').filter fun choice => decide (choice.1 = best.1) :=
              List.mem_filter.mpr ⟨List.mem_cons_self, by simp [rank]⟩
            rw [alone, List.mem_singleton] at mine its
            rw [mine, its]

theorem choose_ok (chosen : choose reasons first = .ok plan) : ∃ rank, (rank, plan) ∈ first := by
  unfold choose at chosen
  split at chosen
  · cases chosen
  · rename_i best rest sorted
    split at chosen
    · cases chosen
    · obtain rfl := Except.ok.inj chosen
      refine ⟨best.1, ?_⟩
      have within : best ∈ first.mergeSort fun a b => decide (a.1 ≤ b.1) := by
        rw [sorted]
        exact List.mem_cons_self
      exact List.mem_mergeSort.mp within

end Choosing

section Folding
variable {host : HostPlatform} {image : ImageRecord} {probes : List ProviderProbe}
  {intent : RunSelectionIntent} {matrix : List SupportMatrixEntry} {variants : List ImageVariant}

theorem Adds.trans {a b c x y : Selection} (first : Adds a x b) (second : Adds b y c) :
    Adds a ⟨x.candidates ++ y.candidates, x.rejected.merge y.rejected, false⟩ c where
  candidates := by rw [second.candidates, first.candidates, List.append_assoc]
  rejected empty := by
    have none : b.candidates = [] := by
      have parts := second.candidates.symm.trans empty
      exact (List.append_eq_nil_iff.mp parts).1
    rw [second.rejected empty, first.rejected none, Rejections.merge_assoc]

/-- What a variant adds, as a function of the variant. -/
structure Contributes (host : HostPlatform) (image : ImageRecord) (probes : List ProviderProbe)
    (intent : RunSelectionIntent) (matrix : List SupportMatrixEntry)
    (added : ImageVariant → Selection) (variant : ImageVariant) : Prop where
  eligible : ∀ choice ∈ (added variant).candidates, ∃ provider probe entry,
    Eligible host image probes intent matrix variant provider probe entry ∧
      choice = candidate host image intent provider entry
  adds : ∀ state, ∃ result,
    considerVariant host image probes intent matrix state variant = .ok result ∧
      Adds state (added variant) result

theorem exists_contributions (distinct : Distinct variants) :
    ∃ added, ∀ variant ∈ variants, Contributes host image probes intent matrix added variant := by
  have each : ∀ variant, ∃ added : Selection, variant ∈ variants →
      (∀ choice ∈ added.candidates, ∃ provider probe entry,
        Eligible host image probes intent matrix variant provider probe entry ∧
          choice = candidate host image intent provider entry) ∧
      ∀ state, ∃ result,
        considerVariant host image probes intent matrix state variant = .ok result ∧
          Adds state added result := by
    intro variant
    by_cases member : variant ∈ variants
    · obtain ⟨provider, known⟩ := distinct.known variant member
      obtain ⟨added, eligible, adds⟩ := considerVariant_adds known
      refine ⟨added, fun _ => ⟨fun choice chosen => ?_, adds⟩⟩
      obtain ⟨probe, entry, facts⟩ := eligible choice chosen
      exact ⟨provider, probe, entry, facts⟩
    · exact ⟨⟨[], .none, false⟩, fun absurd => (member absurd).elim⟩
  choose added facts using each
  exact ⟨added, fun variant member => ⟨(facts variant member).1, (facts variant member).2⟩⟩

/-- What all variants add together. -/
def together (added : ImageVariant → Selection) (variants : List ImageVariant) : Selection where
  candidates := variants.flatMap fun variant => (added variant).candidates
  rejected := variants.foldr (fun variant reasons => (added variant).rejected.merge reasons) .none
  selectableRow := false

theorem foldlM_considerVariant {added : ImageVariant → Selection} {state : Selection}
    (contributes : ∀ variant ∈ variants,
      Contributes host image probes intent matrix added variant) :
    ∃ result, variants.foldlM (considerVariant host image probes intent matrix) state = .ok result ∧
      Adds state (together added variants) result := by
  induction variants generalizing state with
  | nil => exact ⟨state, rfl, Adds.same state⟩
  | cons variant variants ih =>
      obtain ⟨next, first, adds⟩ := (contributes variant List.mem_cons_self).adds state
      obtain ⟨result, rest, others⟩ := @ih next fun other member =>
        contributes other (List.mem_cons_of_mem _ member)
      refine ⟨result, ?_, adds.trans others⟩
      rw [List.foldlM_cons, first]
      exact rest

theorem together_perm {added : ImageVariant → Selection} {others : List ImageVariant}
    (same : variants.Perm others) :
    (together added variants).candidates.Perm (together added others).candidates ∧
      (together added variants).rejected = (together added others).rejected := by
  refine ⟨same.flatMap_right _, same.foldr_eq' ?_ _⟩
  intro first _ second _ reasons
  rw [← Rejections.merge_assoc, ← Rejections.merge_assoc,
    Rejections.merge_comm (added first).rejected]

end Folding

section Resolution
variable {host : HostPlatform} {image : ImageRecord} {probes : List ProviderProbe}
  {intent : RunSelectionIntent} {matrix : List SupportMatrixEntry} {plan : RunExecutionPlan}

/-- What stands behind a plan that has been resolved. -/
structure Grounds (host : HostPlatform) (image : ImageRecord) (probes : List ProviderProbe)
    (intent : RunSelectionIntent) (matrix : List SupportMatrixEntry) (plan : RunExecutionPlan)
    (provider : ProviderId) (probe : ProviderProbe) (entry : SupportMatrixEntry) : Prop where
  evidence : Evidence probes
  optIn : decide (intent.explicitAccelerator = some .tcg) = intent.allowTcg
  possible : ¬(intent.explicitProvider = some .hyperv ∧ intent.explicitAccelerator.isSome)
  distinct : Distinct image.variants
  eligible : ∃ variant ∈ image.variants,
    Eligible host image probes intent matrix variant provider probe entry
  made : plan = (candidate host image intent provider entry).2

theorem resolve_grounds
    (resolved : resolveRunExecutionPlanWithMatrix host image probes intent matrix = .ok plan) :
    ∃ provider probe entry, Grounds host image probes intent matrix plan provider probe entry := by
  obtain ⟨evident, rest⟩ := bind_unit_ok.mp resolved
  obtain ⟨optIn, rest⟩ := bind_unit_ok.mp rest
  have consent : decide (intent.explicitAccelerator = some .tcg) = intent.allowTcg := by
    unfold validateTcgIntent at optIn
    split at optIn
    · cases optIn
    · rename_i same
      simpa using same
  split at rest
  · cases rest
  · rename_i possible
    obtain ⟨seen, unique, rest⟩ := bind_ok.mp rest
    have distinct := distinctVariants_ok.mp ⟨seen, unique⟩
    split at rest
    · cases rest
    · obtain ⟨added, contributes⟩ :=
        @exists_contributions host image probes intent matrix _ distinct
      obtain ⟨result, folds, adds⟩ := @foldlM_considerVariant host image probes intent matrix
        image.variants added ⟨[], .none, false⟩ contributes
      rw [folds] at rest
      obtain ⟨rank, member⟩ := choose_ok rest
      rw [adds.candidates, List.nil_append] at member
      obtain ⟨variant, listed, chosen⟩ := List.mem_flatMap.mp member
      obtain ⟨provider, probe, entry, eligible, made⟩ :=
        (contributes variant listed).eligible _ chosen
      exact ⟨provider, probe, entry, validateProbeSnapshots_ok.mp evident, consent, possible,
        distinct, ⟨variant, listed, eligible⟩, congrArg Prod.snd made⟩

variable {provider : ProviderId} {probe : ProviderProbe} {entry : SupportMatrixEntry}

theorem Grounds.provider_eq (grounds : Grounds host image probes intent matrix plan provider probe entry) :
    plan.provider = provider := by
  rw [grounds.made]
  rfl

theorem Grounds.accelerator_eq
    (grounds : Grounds host image probes intent matrix plan provider probe entry) :
    plan.accelerator = acceleratorFor host intent provider := by
  rw [grounds.made]
  rfl

/-- The row of the plan is the row it was made from. -/
theorem Grounds.key_eq (grounds : Grounds host image probes intent matrix plan provider probe entry) :
    plan.key = entry.key ∧ plan.supportStatus = entry.status := by
  obtain ⟨variant, _, eligible⟩ := grounds.eligible
  have row := eligible.row
  simp only [matchesRow, Bool.and_eq_true, decide_eq_true_eq] at row
  obtain ⟨⟨⟨⟨⟨hostOs, hostArchitecture⟩, own⟩, accelerator⟩, guestOs⟩, guestArchitecture⟩ := row
  rw [grounds.made]
  refine ⟨?_, rfl⟩
  calc RunExecutionPlan.key _
      = ⟨entry.key.hostOs, entry.key.hostArchitecture, entry.key.provider, entry.key.accelerator,
          entry.key.guestOs, entry.key.guestArchitecture, entry.key.guestTransport⟩ := by
        rw [hostOs, hostArchitecture, own, accelerator, guestOs, guestArchitecture]
        rfl
    _ = entry.key := rfl

/-- The provider is the explicit one, or the one of an explicit accelerator, or the
preferred one. -/
theorem Grounds.selected (grounds : Grounds host image probes intent matrix plan provider probe entry) :
    ∀ chosen, selectedProvider intent = some chosen → plan.provider = chosen := by
  intro chosen selected
  obtain ⟨variant, _, eligible⟩ := grounds.eligible
  rw [grounds.provider_eq, eligible.selected chosen selected]

theorem Grounds.tcg (grounds : Grounds host image probes intent matrix plan provider probe entry) :
    plan.accelerator = .tcg ↔
      intent.explicitAccelerator = some .tcg ∧ intent.allowTcg = true := by
  obtain ⟨variant, _, eligible⟩ := grounds.eligible
  have consent := grounds.optIn
  rw [grounds.accelerator_eq]
  constructor
  · intro tcg
    cases provider with
    | hyperv => cases tcg
    | qemu =>
        cases requested : intent.explicitAccelerator with
        | none =>
            rw [acceleratorFor, requested] at tcg
            revert tcg
            cases host.os <;> simp [nativeQemuAccelerator]
        | some accelerator =>
            rw [acceleratorFor, requested] at tcg
            cases accelerator with
            | auto =>
                revert tcg
                cases host.os <;> simp [RequestedAccelerator.exact, nativeQemuAccelerator]
            | whpx => cases tcg
            | kvm => cases tcg
            | hvf => cases tcg
            | tcg =>
                rw [requested] at consent
                exact ⟨rfl, by simpa using consent.symm⟩
  · rintro ⟨requested, _⟩
    cases provider with
    | hyperv =>
        cases explicit : intent.explicitProvider with
        | none =>
            have selected : selectedProvider intent = some .qemu := by
              simp [selectedProvider, explicit, requested]
            cases eligible.selected _ selected
        | some other =>
            have selected : selectedProvider intent = some other := by
              simp [selectedProvider, explicit]
            obtain rfl := eligible.selected _ selected
            exact (grounds.possible ⟨explicit, by simp [requested]⟩).elim
    | qemu => simp [acceleratorFor, requested, RequestedAccelerator.exact]

theorem Distinct.single (distinct : Distinct image.variants) {variant : ImageVariant}
    (member : variant ∈ image.variants) (known : providerId variant.provider = some provider) :
    (image.variants.filter fun other => providerId other.provider = some provider).length = 1 := by
  have others : ∀ other ∈ image.variants, providerId other.provider = some provider →
      other = variant := fun other listed same =>
    List.inj_on_of_nodup_map distinct.distinct listed member
      ((asStr_of_providerId same).trans (asStr_of_providerId known).symm)
  generalize filtered : (image.variants.filter fun other =>
    providerId other.provider = some provider) = chosen
  have within : variant ∈ chosen := by
    rw [← filtered]
    exact List.mem_filter.mpr ⟨member, by simpa using known⟩
  have same : chosen = List.replicate chosen.length variant := by
    refine List.eq_replicate_of_mem fun other inside => ?_
    rw [← filtered] at inside
    obtain ⟨listed, known⟩ := List.mem_filter.mp inside
    exact others other listed (by simpa using known)
  have once : chosen.Nodup := by
    rw [← filtered]
    exact distinct.distinct.of_map.filter _
  rw [same, List.nodup_replicate] at once
  have positive := List.length_pos_of_mem within
  omega

/-- The same host, image and probe do not contradict the plan. -/
theorem Grounds.revalidates
    (grounds : Grounds host image probes intent supportMatrix plan provider probe entry)
    {other : ProviderProbe} (probed : other ∈ probes) (named : other.name = plan.provider.asStr) :
    revalidateRunExecutionPlan plan host image other = .ok () := by
  obtain ⟨variant, member, eligible⟩ := grounds.eligible
  obtain ⟨key, status⟩ := grounds.key_eq
  have own := grounds.provider_eq
  have accelerator := grounds.accelerator_eq
  -- The probe is the one that the plan was made from.
  obtain rfl : probe = other := by
    have found := (find_name grounds.evidence).mpr ⟨probed, named⟩
    rw [own, eligible.found] at found
    exact Option.some.inj found
  have evident : validateProbeSnapshots [probe] = .ok () := validateProbeSnapshots_ok.mpr
    ⟨fun each alone => grounds.evidence.sound each (List.mem_singleton.mp alone ▸ probed),
      List.nodup_singleton _⟩
  have steady : planDrifts plan host image probe = false := by
    have single := grounds.distinct.single member eligible.known
    rw [← own] at single
    simp only [planDrifts, single, named]
    rw [grounds.made]
    simp [candidate, eligible.native]
  have transport : plan.guestTransport = entry.key.guestTransport := by
    rw [grounds.made]
    rfl
  have systems : plan.guestOs = image.guestOs ∧ plan.guestArchitecture = image.guestArch := by
    rw [grounds.made]
    exact ⟨rfl, rfl⟩
  unfold revalidateRunExecutionPlan
  rw [if_neg (by simp [steady])]
  refine bind_unit_ok.mpr ⟨evident, ?_⟩
  rw [if_neg (by simp [eligible.ready, eligible.available]), accelerator,
    if_neg (by simp only [eligible.accelerator, Bool.not_true, Bool.false_eq_true,
      not_false_eq_true]), systems.1, systems.2,
    if_neg (by simp only [eligible.guestArch, Bool.not_true, Bool.false_eq_true,
      not_false_eq_true]), transport,
    if_neg (by simp only [eligible.guestOs, eligible.transport, eligible.networkless, Bool.not_true,
      Bool.or_false, Bool.false_eq_true, not_false_eq_true]), key,
    supportFor_of_mem eligible.listed]
  simp only [status]
  rw [if_neg eligible.supported, if_neg (by simp)]

end Resolution

/-- What a resolved plan is, and that its check against the same evidence passes. -/
structure Justified (host : HostPlatform) (image : ImageRecord) (probes : List ProviderProbe)
    (intent : RunSelectionIntent) (plan : RunExecutionPlan) : Prop where
  revalidates : ∃ probe ∈ probes, probe.name = plan.provider.asStr ∧
    ∀ other ∈ probes, other.name = plan.provider.asStr →
      revalidateRunExecutionPlan plan host image other = .ok ()
  explicit : ∀ provider, intent.explicitProvider = some provider → plan.provider = provider
  accelerated : intent.explicitProvider = none → intent.explicitAccelerator.isSome →
    plan.provider = .qemu
  preferred : intent.explicitProvider = none → intent.explicitAccelerator = none →
    ∀ provider, intent.configProviderPreference = some provider → plan.provider = provider
  tcg : plan.accelerator = .tcg ↔ intent.explicitAccelerator = some .tcg ∧ intent.allowTcg = true
  supported : ∃ entry ∈ supportMatrix, entry.key = plan.key ∧ entry.status ≠ .unsupported ∧
    plan.supportStatus = entry.status

/-- A plan is resolved only with good reason, and never without a ready provider or for
another architecture. -/
theorem resolved_plans_revalidate (host : HostPlatform) (image : ImageRecord)
    (probes : List ProviderProbe) (intent : RunSelectionIntent) :
    (∀ plan, resolveRunExecutionPlan host image probes intent = .ok plan →
      Justified host image probes intent plan) ∧
    ((∀ probe ∈ probes, probe.available = false ∨ probe.status ≠ .ready) ∨
        image.guestArch ≠ host.architecture →
      ∃ error, resolveRunExecutionPlan host image probes intent = .error error) := by
  constructor
  · intro plan resolved
    obtain ⟨provider, probe, entry, grounds⟩ := resolve_grounds resolved
    obtain ⟨variant, _, eligible⟩ := grounds.eligible
    obtain ⟨key, status⟩ := grounds.key_eq
    have found := (find_name grounds.evidence).mp eligible.found
    refine ⟨⟨probe, found.1, ?_, fun other => grounds.revalidates⟩, ?_, ?_, ?_, grounds.tcg,
      ⟨entry, eligible.listed, key.symm, eligible.supported, status⟩⟩
    · rw [grounds.provider_eq]
      exact found.2
    · intro chosen explicit
      exact grounds.selected chosen (by simp [selectedProvider, explicit])
    · intro none accelerated
      refine grounds.selected .qemu ?_
      obtain ⟨accelerator, requested⟩ := Option.isSome_iff_exists.mp accelerated
      simp [selectedProvider, none, requested]
    · intro none plain chosen preferred
      exact grounds.selected chosen (by simp [selectedProvider, none, plain, preferred])
  · intro impossible
    cases resolved : resolveRunExecutionPlan host image probes intent with
    | error error => exact ⟨error, rfl⟩
    | ok plan =>
        obtain ⟨provider, probe, entry, grounds⟩ := resolve_grounds resolved
        obtain ⟨variant, _, eligible⟩ := grounds.eligible
        rcases impossible with unavailable | foreign
        · have found := (find_name grounds.evidence).mp eligible.found
          rcases unavailable probe found.1 with closed | unready
          · cases closed.symm.trans eligible.available
          · exact (unready eligible.ready).elim
        · exact (foreign eligible.native).elim

example : (resolveRunExecutionPlan ⟨.linux, .x86_64⟩
    ⟨imageSchemaVersion, ⟨"base", by decide⟩, .linux, .x86_64,
      [⟨"qemu", "qcow2", ⟨"/", ["base.qcow2"]⟩, "", 1⟩], 5⟩
    [⟨"qemu", .ready, true, "", ⟨automationSchemaVersion, true, true, true, ["kvm"], ["linux"],
      ["x86_64"], ["qga"], true⟩⟩] ⟨none, none, none, false⟩).map (·.accelerator) = .ok .kvm := by
  decide +kernel

section Orders
variable {host : HostPlatform} {image : ImageRecord} {probes others : List ProviderProbe}
  {intent : RunSelectionIntent} {matrix : List SupportMatrixEntry} {variants : List ImageVariant}

theorem considerVariant_perm (same : probes.Perm others) (evidence : Evidence probes) :
    considerVariant host image probes intent matrix =
      considerVariant host image others intent matrix := by
  funext state variant
  unfold considerVariant
  cases providerId variant.provider with
  | none => rfl
  | some provider => simp only [find_name_perm same evidence]

theorem resolve_probes_perm (same : probes.Perm others) :
    resolveRunExecutionPlanWithMatrix host image probes intent matrix =
      resolveRunExecutionPlanWithMatrix host image others intent matrix := by
  unfold resolveRunExecutionPlanWithMatrix
  rw [← validateProbeSnapshots_perm same]
  cases evident : validateProbeSnapshots probes with
  | error error => rfl
  | ok _ => rw [considerVariant_perm same (validateProbeSnapshots_ok.mp evident)]

/-- The image with its variants in another order. -/
def reordered (image : ImageRecord) (variants : List ImageVariant) : ImageRecord :=
  { image with variants := variants }

theorem variantMissing_perm (same : image.variants.Perm variants) :
    variantMissing image intent = variantMissing (reordered image variants) intent := by
  unfold variantMissing reordered
  rw [same.isEmpty_eq]
  congr 2
  funext provider
  rw [same.any_eq]

/-- The part behind the checks of the evidence and the intent. -/
theorem selection_perm (distinct : Distinct image.variants)
    (same : image.variants.Perm variants) :
    (image.variants.foldlM (considerVariant host image probes intent matrix)
        ⟨[], .none, false⟩ >>= fun selection => choose selection.rejected selection.candidates) =
      (variants.foldlM (considerVariant host (reordered image variants) probes intent matrix)
        ⟨[], .none, false⟩ >>= fun selection => choose selection.rejected selection.candidates) := by
  obtain ⟨added, contributes⟩ := @exists_contributions host image probes intent matrix _ distinct
  obtain ⟨first, folds, adds⟩ := @foldlM_considerVariant host image probes intent matrix
    image.variants added ⟨[], .none, false⟩ contributes
  obtain ⟨second, folds', adds'⟩ := @foldlM_considerVariant host image probes intent matrix
    variants added ⟨[], .none, false⟩ fun variant member =>
      contributes variant (same.mem_iff.mpr member)
  obtain ⟨candidates, rejected⟩ := @together_perm _ added _ same
  have unchanged : considerVariant host (reordered image variants) probes intent matrix =
      considerVariant host image probes intent matrix := rfl
  rw [unchanged, folds, folds']
  refine choose_perm ?_ fun empty => ?_
  · rw [adds.candidates, adds'.candidates]
    exact candidates
  · have none : second.candidates = [] := by
      rw [adds.candidates, List.nil_append] at empty
      rw [empty] at candidates
      rw [adds'.candidates, List.nil_perm.mp candidates]
      rfl
    rw [adds.rejected empty, adds'.rejected none, rejected]

theorem resolve_variants_perm (distinct : Distinct image.variants)
    (same : image.variants.Perm variants) :
    resolveRunExecutionPlanWithMatrix host image probes intent matrix =
      resolveRunExecutionPlanWithMatrix host (reordered image variants) probes intent matrix := by
  have selects := @selection_perm host image probes intent matrix variants distinct same
  obtain ⟨seen, unique⟩ := distinctVariants_ok.mpr distinct
  obtain ⟨seen', unique'⟩ := distinctVariants_ok.mpr (distinct.perm same)
  unfold resolveRunExecutionPlanWithMatrix
  rw [← variantMissing_perm same, unique]
  have second : (reordered image variants).variants.foldlM distinctVariant [] = .ok seen' := unique'
  rw [second]
  cases validateProbeSnapshots probes with
  | error error => rfl
  | ok _ =>
      cases validateTcgIntent intent with
      | error error => rfl
      | ok _ =>
          by_cases impossible : intent.explicitProvider = some .hyperv ∧
              intent.explicitAccelerator.isSome
          · simp only [if_pos impossible]
          · simp only [if_neg impossible]
            cases variantMissing image intent with
            | true => rfl
            | false => exact selects

theorem resolve_indistinct (confused : ¬Distinct image.variants) :
    ∃ error, resolveRunExecutionPlanWithMatrix host image probes intent matrix = .error error := by
  cases resolved : resolveRunExecutionPlanWithMatrix host image probes intent matrix with
  | error error => exact ⟨error, rfl⟩
  | ok plan =>
      obtain ⟨provider, probe, entry, grounds⟩ := resolve_grounds resolved
      exact (confused grounds.distinct).elim

end Orders

/-- Neither the order of the probes nor that of the variants decides about the plan. -/
theorem resolution_ignores_order (host : HostPlatform) (image : ImageRecord)
    (probes : List ProviderProbe) (intent : RunSelectionIntent)
    (matrix : List SupportMatrixEntry) :
    (∀ others, probes.Perm others →
      resolveRunExecutionPlanWithMatrix host image probes intent matrix =
        resolveRunExecutionPlanWithMatrix host image others intent matrix) ∧
    (∀ variants, image.variants.Perm variants →
      let first := resolveRunExecutionPlanWithMatrix host image probes intent matrix
      let second := resolveRunExecutionPlanWithMatrix host { image with variants := variants } probes
        intent matrix
      ((∃ plan, first = .ok plan ∧ second = .ok plan) ∨
        ∃ error other, first = .error error ∧ second = .error other) ∧
      (Distinct image.variants → first = second)) := by
  refine ⟨fun others same => resolve_probes_perm same, fun variants same => ?_⟩
  intro first second
  by_cases distinct : Distinct image.variants
  · have equal : first = second := resolve_variants_perm distinct same
    refine ⟨?_, fun _ => equal⟩
    cases result : first with
    | ok plan => exact Or.inl ⟨plan, rfl, equal.symm.trans result⟩
    | error error => exact Or.inr ⟨error, error, rfl, equal.symm.trans result⟩
  · have confused : ¬Distinct (reordered image variants).variants := fun other =>
      distinct (other.perm same.symm)
    obtain ⟨error, fails⟩ := @resolve_indistinct host image probes intent matrix distinct
    obtain ⟨other, fails'⟩ := @resolve_indistinct host (reordered image variants) probes intent
      matrix confused
    exact ⟨Or.inr ⟨error, other, fails, fails'⟩, fun distinct' => (distinct distinct').elim⟩

end VmCell
