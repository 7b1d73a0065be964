import RequestUploads.Main
import RequestUploads.Proofs.Session
import RequestUploads.Proofs.Separation
import RequestUploads.Proofs.Deletions
import RequestUploads.Proofs.Canonical
import RequestUploads.Proofs.Escaping
import RequestUploads.Proofs.Origins
import RequestUploads.Proofs.Handles
import RequestUploads.Proofs.TextForm
import RequestUploads.Proofs.Submissions
import RequestUploads.Proofs.Interleaving
import RequestUploads.Proofs.Restatement
import RequestUploads.Proofs.Contents
import RequestUploads.Proofs.Footprint
import RequestUploads.Proofs.Checking
import RequestUploads.Proofs.OrderedMap
import RequestUploads.Proofs.RemoteText
import RequestUploads.Proofs.Uri.Text
import RequestUploads.Proofs.Config.Loading
import RequestUploads.Proofs.Declaration.Pairs
import RequestUploads.Proofs.Text.Places
import RequestUploads.Proofs.Text.Shrinking
import RequestUploads.Proofs.Listing
