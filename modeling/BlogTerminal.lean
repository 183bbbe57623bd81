import BlogTerminal.Main
import BlogTerminal.Proofs.Command.Entries
import BlogTerminal.Proofs.Command.Html
import BlogTerminal.Proofs.Command.Registry
import BlogTerminal.Proofs.Command.Searches
import BlogTerminal.Proofs.Command.Shelves
import BlogTerminal.Proofs.Command.Viewpoint
import BlogTerminal.Proofs.CommandLine
import BlogTerminal.Proofs.Markup.Highlight
import BlogTerminal.Proofs.Outline
import BlogTerminal.Proofs.Path.Page
import BlogTerminal.Proofs.Path.Walk
import BlogTerminal.Proofs.Post.Collection
import BlogTerminal.Proofs.Post.Order
import BlogTerminal.Proofs.Post.Slug
import BlogTerminal.Proofs.Repl.Pages
import BlogTerminal.Proofs.Store.Refinement
import BlogTerminal.Proofs.Terminal.Clicks
import BlogTerminal.Proofs.Terminal.Destinations
import BlogTerminal.Proofs.Terminal.Dispatch
import BlogTerminal.Proofs.Terminal.Failures
import BlogTerminal.Proofs.Terminal.Files
import BlogTerminal.Proofs.Terminal.Location
import BlogTerminal.Proofs.Terminal.Persistence
import BlogTerminal.Proofs.Terminal.Recall
import BlogTerminal.Proofs.Terminal.Tab
import BlogTerminal.Proofs.Terminal.Themes
import BlogTerminal.Repl
