import PagePrep.Main
import PagePrep.Proofs.Config.ReadBack
import PagePrep.Proofs.Page.Addition
import PagePrep.Proofs.Page.BlankMap
import PagePrep.Proofs.Page.ContextLines
import PagePrep.Proofs.Page.NormalForm
import PagePrep.Proofs.Notebook.CodeCells
import PagePrep.Proofs.Notebook.Decoding
import PagePrep.Proofs.Region.Decoration
import PagePrep.Proofs.Region.NewContent
import PagePrep.Proofs.Region.Signs
import PagePrep.Proofs.Run.Building
import PagePrep.Proofs.Run.Checking
import PagePrep.Proofs.Run.FoundPages
import PagePrep.Proofs.Run.MarkingRun
import PagePrep.Proofs.Run.Redirects
