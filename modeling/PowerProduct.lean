import PowerProduct.Main
import PowerProduct.Request
import PowerProduct.Theory.Power
import PowerProduct.Proofs.TableRuns
import PowerProduct.Proofs.ElementwiseProducts
import PowerProduct.Proofs.ColumnProducts
import PowerProduct.Proofs.CheckCommand
import PowerProduct.Proofs.LeadingZeros
import PowerProduct.Proofs.FaultFreedom
import PowerProduct.Proofs.Recombination
import PowerProduct.Proofs.RepeatedWrites
import PowerProduct.Proofs.WindowedEvaluation
import PowerProduct.Proofs.SuggestedWidth
import PowerProduct.Proofs.NumeralReading
import PowerProduct.Proofs.SettingSources
import PowerProduct.Proofs.BitColumns
import PowerProduct.Proofs.DrawnNumbers
import PowerProduct.Proofs.ReaderRefinement
import PowerProduct.Proofs.ProfileCommand
